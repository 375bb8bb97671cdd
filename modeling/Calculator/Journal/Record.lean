import Calculator.Journal.Event
import Calculator.Journal.Template
import Calculator.Json.Printer

/-!
# Log records and lines

An event becomes a `Record`: attributes that every record has, and the event's fields. A field
whose key is the name of such an attribute gets an underscore in front. A record is written as one
line of text or as one JSON object.

## Main definitions

* `reservedKeys`, `fieldKey`, `extraFields`: where a field goes.
* `Record`, `Record.attributes`.
* `Record.textLine`, `Record.jsonLine`: the two forms of a line.
-/

namespace Calculator

/-- The attributes of records that no field may replace. -/
def reservedKeys : List String :=
  ["args", "asctime", "created", "exc_info", "exc_text", "filename", "funcName", "levelname",
    "levelno", "lineno", "message", "module", "msecs", "msg", "name", "pathname", "process",
    "processName", "relativeCreated", "stack_info", "taskName", "thread", "threadName"]

/-- The key of the session in a record. -/
def sessionKey : String := "session_id"

/-- The attribute under which a field is kept. -/
def fieldKey (key : String) : String := if reservedKeys.contains key then "_" ++ key else key

/-- The attributes that the fields of an event add to a record which already has `present`. -/
def extraFields (present fields : Fields) : Fields :=
  fields.foldl (fun extra (key, value) => Table.insert extra (fieldKey key) value) present

/-- The fields of an event as its record keeps them. -/
def Event.keptFields (event : Event) : Fields := extraFields [] event.fields

/-- A log record. -/
structure Record where
  /-- The name of the logger. -/
  logger : String
  /-- The level. -/
  level : Level
  /-- The message. -/
  message : String
  /-- The attributes that were set besides. They may replace those that every record has. -/
  extra : Fields := []

namespace Record

/-- The attributes of a record. -/
def attributes (record : Record) : Fields :=
  Table.merge
    [("name", .str record.logger), ("msg", .str record.message), ("args", .null),
      ("levelname", .str record.level.name), ("levelno", .nat record.level.rank),
      ("lineno", .nat 1), ("funcName", .null), ("processName", .str "MainProcess"),
      ("threadName", .str "MainThread"), ("exc_info", .null), ("exc_text", .null),
      ("stack_info", .null)]
    record.extra

/-- An attribute of a record. -/
def get (record : Record) (key : String) : Json :=
  (Table.get? record.attributes key).getD .null

/-- The attribute that hides what gives the message of a record. -/
def messageKey : String := "getMessage"

/-- The message of a record as it is written. If there are arguments, it is a template for them. An
attribute that hides what gives the message is called in its place, and no value can be called. -/
def messageText (record : Record) : Except Fault String :=
  match Table.get? record.extra messageKey with
  | some value =>
    .error (.internal "TypeError" ("'" ++ value.typeName ++ "' object is not callable"))
  | none => do
    let message ← (record.get "msg").toText
    let arguments := record.get "args"
    if arguments.isTruthy then Template.substitute message (.ofValue arguments) else .ok message

/-- The attributes that are written as fields: neither reserved nor the session. -/
def fields (record : Record) : Fields :=
  record.extra.filter (fun (key, _) => !reservedKeys.contains key && key ≠ sessionKey)

/-- Put a text on lines of its own after `line`, if there is one. -/
def below (line : String) (value : Json) : Except Fault String :=
  if !value.isTruthy then .ok line
  else
    match value with
    | .str text => .ok ((if line.toList.getLast? = some '\n' then line else line ++ "\n") ++ text)
    | _ =>
      .error (.internal "TypeError"
        ("can only concatenate str (not \"" ++ value.typeName ++ "\") to str"))

/-- The failure of a value that lacks an attribute. -/
def lacks (value : Json) (name : String) : Fault :=
  .internal "AttributeError"
    ("'" ++ value.typeName ++ "' object has no attribute '" ++ name ++ "'")

/-- What is written of the failure that a record is about. It is given by three values: its kind,
itself, and where it arose. No value of a record is a failure or a place in a program, so the last
two have to be absent. -/
def describeFailure (failure : Json) : Except Fault String :=
  match failure with
  | .arr (_ :: .null :: .null :: _) => .ok "NoneType: None"
  | .arr (_ :: itself :: .null :: _) => .error (lacks itself "__suppress_context__")
  | .arr (_ :: _ :: place :: _) => .error (lacks place "tb_frame")
  | .arr _ => .error (.internal "IndexError" "list index out of range")
  | .str text =>
    if text.length < 3 then .error (.internal "IndexError" "string index out of range")
    else .error (lacks failure "tb_frame")
  | .obj _ => .error (.internal "KeyError" "2")
  | _ =>
    .error (.internal "TypeError" ("'" ++ failure.typeName ++ "' object is not subscriptable"))

/-- The text on the failure that a record is about, if there is one. A text that is there already is
kept. -/
def failureText (record : Record) : Except Fault Json :=
  let failure := record.get "exc_info"
  if !failure.isTruthy || (record.get "exc_text").isTruthy then .ok (record.get "exc_text")
  else (describeFailure failure).map Json.str

/-- A field in a line of text. -/
def fieldText (field : String × Json) : Except Fault String :=
  field.2.toText.map (fun text => field.1 ++ "=" ++ text)

/-- The record as a line of text: the template, then the fields. -/
def textLine (record : Record) (template time : String) : Except Fault String := do
  let message ← record.messageText
  let head ← Template.fill template
    (Table.merge record.attributes [("message", .str message), ("asctime", .str time)])
  let failure ← record.failureText
  let line ← below (← below head failure) (record.get "stack_info")
  let written ← record.fields.mapM fieldText
  return String.intercalate " " (line :: written)

/-- The session of a record as a text, if it has one. -/
def session (record : Record) : Except Fault Fields :=
  let session := record.get sessionKey
  if session.isTruthy then session.toText.map (fun text => [(sessionKey, .str text)]) else .ok []

/-- The record as an object: the time, the level, the message as it is written and the logger, then
the session and the fields. -/
def toJson (record : Record) (time message : String) (session : Fields) : Json :=
  .obj (Table.merge
    ([("timestamp", .str time), ("level", record.get "levelname"),
      ("message", .str message), ("logger", record.get "name")] ++ session)
    record.fields)

/-- The record as a line of JSON. -/
def jsonLine (record : Record) (time : String) : Except Fault String := do
  let message ← record.messageText
  let session ← record.session
  (record.toJson time message session).write .spaced false

end Record

end Calculator
