import Calculator.Journal.Logger
import Calculator.Startup.Launch
import Calculator.Tool.Server
import Calculator.Web.Server

/-!
# The command line program

`web` and `tools` start the two servers on the standard streams, with the options `--host` and
`--port` after them. The web server reads a method, a path and a body from each line, and the tool
server the name of a tool and its arguments. The journal goes to the error stream.
-/

namespace Calculator.Program

/-- The environment variables that are read. -/
def variableNames : List String :=
  Setting.all.map Setting.environmentName ++ LoggerSettings.variableNames

/-- The environment variables that are set. -/
def environment : IO (Table Variable) := do
  let mut found : Table Variable := []
  for name in variableNames do
    if let some value ← IO.getEnv name then
      found := Table.insert found name { text := value }
  return found

/-- Write the events of a computation, and go on with its value. -/
def report {α : Type} (logger : Logger) (traced : Traced α) : IO α := do
  for event in traced.events do
    let time ← IO.monoMsNow
    match logger.write (toString time) event with
    | .ok (some line) => IO.eprintln line
    | .ok none => pure ()
    | .error fault => IO.eprintln fault.message
  return traced.value

/-- Cut a text at its first space. -/
def cutAtSpace (text : List Char) : String × List Char :=
  (String.ofList (text.takeWhile (· ≠ ' ')), (text.dropWhile (· ≠ ' ')).drop 1)

/-- The answer of the web server to a line. -/
def answerWeb (server : Web.Server) (settings : Settings) (line : String) :
    Traced (List String) := do
  let (method, afterMethod) := cutAtSpace line.toList
  let (path, body) := cutAtSpace afterMethod
  let result ← ExceptT.run (server.respond settings
    { method, path, body := (String.ofList body).toUTF8.toList })
  let response := result.toOption.getD .serverError
  return [toString response.status ++ " " ++ response.body]

/-- The answer of the tool server to a line. -/
def answerTool (registry : Registry) (settings : Settings) (line : String) :
    Traced (List String) := do
  let (tool, written) := cutAtSpace line.toList
  match ← ExceptT.run (ToolServer.call registry settings tool
    ((Json.ofChars? written).getD (.obj []))) with
  | .ok texts => return texts
  | .error fault => return [fault.message]

/-- What answers the lines of a service that was started. -/
def responder (settings : Settings) : Service → Traced (String → Traced (List String))
  | .web => return answerWeb ⟨Engine.make.value⟩ settings
  | .tools => do
    let (_, registry) ← ToolServer.prepare {}
    return answerTool registry settings

/-- Answer the lines of the standard input until it ends. -/
def serve (logger : Logger) (answer : String → Traced (List String)) : IO Unit := do
  let input ← IO.getStdin
  repeat
    let line ← input.getLine
    if line.isEmpty then break
    for text in ← report logger (answer (String.ofList (line.toList.filter (· ≠ '\n')))) do
      IO.println text

/-- Run a service. -/
def run (service : Service) (arguments : List String) : IO UInt32 := do
  let table ← environment
  let settings : Settings := { environment := table }
  match LoggerSettings.ofEnvironment table with
  | .error fault =>
    IO.eprintln fault.message
    return 1
  | .ok journal =>
    let logger : Logger := ⟨"rpncalc", journal.threshold, journal.json, "00000000"⟩
    match ← report logger (service.start settings arguments) with
    | .error code => return code.toUInt32
    | .ok _ =>
      serve logger (← report logger (responder settings service))
      let code ← report logger (service.stop .finished)
      return (code.getD 0).toUInt32

end Calculator.Program

/-- Run the service that the first argument names. -/
def main (arguments : List String) : IO UInt32 :=
  match arguments with
  | "web" :: rest => Calculator.Program.run .web rest
  | "tools" :: rest => Calculator.Program.run .tools rest
  | _ => do
    IO.eprintln "usage: calculator web|tools [--host HOST] [--port PORT]"
    return 2
