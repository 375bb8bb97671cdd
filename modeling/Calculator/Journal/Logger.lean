import Calculator.Journal.Record
import Calculator.Text.Case

/-!
# Loggers

A logger writes the events at or above its threshold, as text or as JSON, each with the session of
the logger. Its threshold and form can be read from the environment.

## Main definitions

* `Logger`, `Logger.accepts`, `Logger.line`.
* `Logger.write`: what a call of a logger's method does.
* `LoggerSettings.ofEnvironment`.
-/

namespace Calculator

/-- A logger. -/
structure Logger where
  /-- The name. -/
  name : String
  /-- The rank from which on events are written; zero leaves it to the logger above. -/
  threshold : Nat
  /-- Whether lines are JSON. -/
  json : Bool
  /-- The session that all records share. -/
  session : String

/-- The template of plain lines. -/
def lineTemplate : String := "%(asctime)s [%(levelname)s] [session:%(session_id)s] %(message)s"

/-- The threshold in force where a logger has none. -/
def defaultThreshold : Nat := 30

/-- The threshold that is in force for a given one. -/
def effectiveThreshold (threshold : Nat) : Nat :=
  if threshold = 0 then defaultThreshold else threshold

namespace Logger

/-- Whether a logger writes events of a level. -/
def accepts (logger : Logger) (level : Level) : Bool :=
  effectiveThreshold logger.threshold ≤ level.rank

/-- The record of an event. -/
def record (logger : Logger) (event : Event) : Record where
  logger := logger.name
  level := event.level
  message := event.message
  extra := extraFields [(sessionKey, .str logger.session)] event.fields

/-- The line of an event. -/
def line (logger : Logger) (time : String) (event : Event) : Except Fault String :=
  let record := logger.record event
  if logger.json then record.jsonLine time else record.textLine lineTemplate time

/-- The field that cannot be passed to a logger's method because the method has a parameter of that
name, with the method that refuses it. -/
def refused? (level : Level) (fields : Fields) : Option (String × String) :=
  match (Table.keys fields).find? (fun key => key = "self" || key = "message") with
  | some key => some (level.name.map Char.toLower, key)
  | none => if Table.contains fields "level" then some ("_log", "level") else none

/-- Whether a failure to make a line is passed on to the caller. All others are kept from it. -/
def passesOn (fault : Fault) : Bool := fault.kind = "RecursionError"

/-- What a call of a logger's method hands to the streams: nothing below the threshold, else one
line, unless it cannot be made. -/
def write (logger : Logger) (time : String) (event : Event) : Except Fault (Option String) :=
  match refused? event.level event.fields with
  | some (method, key) =>
    .error (.internal "TypeError"
      ("StructuredLogger." ++ method ++ "() got multiple values for argument '" ++ key ++ "'"))
  | none =>
    if logger.accepts event.level then
      match logger.line time event with
      | .ok line => .ok (some line)
      | .error fault => if passesOn fault then .error fault else .ok none
    else .ok none

end Logger

/-- What the environment says about the logger. -/
structure LoggerSettings where
  /-- The threshold. -/
  threshold : Nat
  /-- Whether lines are JSON. -/
  json : Bool

namespace LoggerSettings

/-- The names of thresholds. -/
def thresholds : Table Nat :=
  [("CRITICAL", 50), ("FATAL", 50), ("ERROR", 40), ("WARNING", 30), ("WARN", 30), ("INFO", 20),
    ("DEBUG", 10), ("NOTSET", 0)]

/-- A name that is known but stands for a template instead of a threshold. -/
def templateName : String := "BASIC_FORMAT"

/-- The template of that name. -/
def namedTemplate : String := "%(levelname)s:%(name)s:%(message)s"

/-- The environment variable of the threshold. -/
def thresholdVariable : String := "RPNCALC_LOG_LEVEL"

/-- The environment variable of the form of the lines. -/
def jsonVariable : String := "RPNCALC_LOG_JSON"

/-- The environment variables that are read. -/
def variableNames : List String := [thresholdVariable, jsonVariable]

/-- Read the settings of the logger. A threshold without a known name is that of `INFO`. -/
def ofEnvironment (environment : Table Variable) : Except Fault LoggerSettings :=
  let name := Text.upper ((Table.get? environment thresholdVariable).getD "INFO").text
  let json := Text.lower ((Table.get? environment jsonVariable).getD "false").text = "true"
  if name = templateName then
    .error (.internal "ValueError" ("Unknown level: " ++ Text.quoted namedTemplate))
  else .ok ⟨(Table.get? thresholds name).getD 20, json⟩

/-- The name of the form of the lines. -/
def formName (settings : LoggerSettings) : String :=
  if settings.json then "JsonFormatter" else "TextFormatter"

end LoggerSettings

end Calculator
