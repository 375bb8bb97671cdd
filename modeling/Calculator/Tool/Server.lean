import Calculator.Report
import Calculator.Tool.Registry
import Calculator.Json.Printer

/-!
# The tool server

What the tool server answers: it lists its own tools before those of the registry, and a call of a
tool gives one text of strict JSON. A failure of a capability is answered by its report.

## Main definitions

* `ToolServer.tools`: the tools that clients see.
* `ToolServer.call`: the texts that a call is answered with.
* `ToolServer.prepare`: what the server does before it serves.
-/

namespace Calculator.ToolServer

/-- The name of the service in its answers. -/
def serviceName : String := "rpncalc"

/-- The tool that tells whether the server answers. -/
def ping : Tool :=
  ⟨"ping", "Health check - returns server status", Arithmetic.emptySchema⟩

/-- The tools of the server itself. -/
def ownTools : List Tool := [ping]

/-- The tools that clients see. -/
def tools (registry : Registry) : List Tool := ownTools ++ registry.tools

/-- A value as strict JSON. -/
def encode (value : Json) : Except Fault String := value.write .spaced true

/-- The report of a failure as strict JSON. Lone surrogates in it are escaped. -/
def encodeFault (fault : Fault) : Except Fault String :=
  match Report.ofFault fault with
  | .ok report => report.toTool.write (Json.Layout.spaced.withStandIns (fault.standIns none)) true
  | .error error => .error error

/-- What is reported when a call fails. -/
def logFault (tool : String) : Fault → Traced Unit
  | .problem p =>
    Traced.log .warning "Tool rejected input"
      [("tool", .str tool), ("error_code", .str p.code), ("error", .str p.message)]
  | fault =>
    match fault.wording with
    | .ok wording =>
      Traced.log .error "Tool execution failed" [("tool", .str tool), ("error", .str wording)]
    | .error _ => pure ()

/-- Call a tool of the registry: its answer as strict JSON, or the report of what went wrong. -/
def callRouted (registry : Registry) (settings : Settings) (tool : String) (arguments : Json) :
    Run (List String) :=
  ExceptT.mk do
    let answer ← ExceptT.run (registry.call settings tool arguments)
    match answer.bind (fun a => encode (.obj a.members)) with
    | .ok text => return .ok [text]
    | .error fault =>
      logFault tool fault
      return (encodeFault fault).map (fun text => [text])

/-- Call a tool: the server's own by name, then those of the registry. -/
def call (registry : Registry) (settings : Settings) (tool : String) (arguments : Json) :
    Run (List String) := do
  Run.log .info "Tool called" [("tool", .str tool), ("args", arguments)]
  if tool = ping.name then
    let text ← Run.ofExcept (encode (.obj [("status", .str "ok"), ("service", .str serviceName)]))
    return [text]
  else if (registry.route? tool).isSome then
    callRouted registry settings tool (if arguments.isTruthy then arguments else .obj [])
  else
    let text ← Run.ofExcept
      (encodeFault (.problem { kind := .general, code := "REGISTRY_ERROR"
                               message := "Unknown tool: " ++ tool }))
    return [text]

/-- Make the registry ready before the first call. -/
def prepare (registry : Registry) : Traced (Except Fault Unit × Registry) := do
  let (result, after) ← registry.prepare
  match result with
  | .error fault => return (.error fault, after)
  | .ok () =>
    Traced.log .info "rpncalc MCP server initialized" []
    return (.ok (), after)

end Calculator.ToolServer
