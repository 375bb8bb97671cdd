import Calculator.Startup.Arguments
import Calculator.Web.Server

/-!
# Starting a server

Both servers start alike: the settings give the address, the command line may change it, and then
the server serves until it is stopped or fails. Serving itself is left to the caller, who says how
it ended.

## Main definitions

* `Service`: the two servers.
* `Service.start`: what comes before serving, with the address to serve at or an exit code.
* `Serving`, `Service.stop`: how serving ended, and what comes after it.
* `Launch`, `Service.launch`: the whole of it.
-/

namespace Calculator

/-- The servers. -/
inductive Service where
  /-- The web server. -/
  | web
  /-- The tool server. -/
  | tools
  deriving DecidableEq, Repr

/-- How serving ended. -/
inductive Serving where
  /-- The server was shut down. -/
  | finished
  /-- Somebody interrupted it. -/
  | interrupted
  /-- The system refused something. -/
  | failed (message : String)

/-- What a start came to. -/
structure Launch where
  /-- The exit code; none when the program simply ended. -/
  exitCode : Option Nat
  /-- Where the server served, if it came so far. -/
  served : Option Address

namespace Service

/-- The setting of the host. -/
def hostSetting : Service → Setting
  | .web => .webHost
  | .tools => .mcpHost

/-- The setting of the port. -/
def portSetting : Service → Setting
  | .web => .webPort
  | .tools => .mcpPort

/-- The address that the settings give. -/
def defaultAddress (service : Service) (settings : Settings) : Except SettingsError Address := do
  let host ← settings.get service.hostSetting
  let port ← settings.get service.portSetting
  return ⟨host, port⟩

/-- A line across the log. -/
def rule : String := String.ofList (List.replicate 70 '=')

/-- The headline of a start. -/
def headline : Service → String
  | .web => "STARTING RPNCALC WEB SERVER"
  | .tools => "STARTING RPNCALC MCP SERVER"

/-- Where clients reach the server. -/
def root (address : Address) : String :=
  "http://" ++ address.host.display ++ ":" ++ address.port.display

/-- What clients are told about the endpoints. -/
def endpointLines (service : Service) (address : Address) : List String :=
  match service with
  | .web => ["Evaluate: POST " ++ root address ++ "/evaluate",
      "Postfix: POST " ++ root address ++ "/postfix",
      "Health check: " ++ root address ++ "/health"]
  | .tools => ["MCP endpoint: " ++ root address ++ "/mcp"]

/-- The configuration that is reported. The tool server reads the length limit here. -/
def configuration (service : Service) (settings : Settings) (address : Address) :
    Except Fault Fields :=
  let listening := [("host", address.host), ("port", address.port)]
  match service with
  | .web => .ok listening
  | .tools =>
    match settings.lengthLimit with
    | .ok limit =>
      .ok (listening ++ [("transport", .str "HTTP Streamable"),
        ("max_expression_length", limit.toJson)])
    | .error error => .error error.toFault

/-- What is reported when a server could not start or failed. -/
def failureMessage : Service → String
  | .web => "Failed to start web server"
  | .tools => "Failed to start server"

/-- What is reported when a server was interrupted. -/
def interruptMessage : Service → String
  | .web => "Web server stopped by user"
  | .tools => "Shutdown complete"

/-- What is reported when a server ended. -/
def shutdownMessage : Service → String
  | .web => "Web server shutdown complete"
  | .tools => "MCP server shutdown complete"

/-- Report that a server could not start or that it failed. -/
def reportFailure (service : Service) (fault : Fault) : Traced Unit :=
  Traced.log .error service.failureMessage
    [("error", .str fault.message), ("error_type", .str fault.kind)]

/-- Report several lines without fields. -/
def reportLines (lines : List String) : Traced Unit :=
  ⟨(), lines.map (fun line => ⟨.info, line, []⟩)⟩

/-- Set up what a server needs before it starts. -/
def setUp : Service → Traced Unit
  | .web => do
    let _ ← Engine.make
    return ()
  | .tools => return ()

/-- Get ready to serve at an address. -/
def announce (service : Service) (settings : Settings) (address : Address) :
    Traced (Except Nat Address) := do
  service.setUp
  reportLines [rule, service.headline, rule]
  match service.configuration settings address with
  | .error fault =>
    service.reportFailure fault
    return .error 1
  | .ok fields =>
    Traced.log .info "Configuration" fields
    reportLines (service.endpointLines address ++ [rule])
    return .ok address

/-- Start a server with the arguments of the command line: the address to serve at, or the exit code
of a program that does not come so far. -/
def start (service : Service) (settings : Settings) (arguments : List String) :
    Traced (Except Nat Address) :=
  match service.defaultAddress settings with
  | .error error => do
    Traced.log .error "FATAL: Invalid configuration" [("error", .str error.message)]
    return .error 1
  | .ok address =>
    match CommandLine.parse address arguments with
    | .help => return .error 0
    | .invalid => return .error 2
    | .serve chosen => service.announce settings chosen

/-- End a program that has served, with its exit code if it has one. -/
def stop (service : Service) : Serving → Traced (Option Nat)
  | .finished => do
    Traced.log .info service.shutdownMessage []
    return none
  | .interrupted => do
    Traced.log .info service.interruptMessage []
    return some 0
  | .failed message => do
    service.reportFailure (.internal "OSError" message)
    return some 1

/-- Start a server, and end it as serving ends. -/
def launch (service : Service) (settings : Settings) (arguments : List String)
    (serving : Serving) : Traced Launch := do
  match ← service.start settings arguments with
  | .error code => return ⟨some code, none⟩
  | .ok address =>
    let code ← service.stop serving
    return ⟨code, some address⟩

end Service

end Calculator
