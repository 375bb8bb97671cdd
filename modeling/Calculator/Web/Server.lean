import Calculator.Json.Printer
import Calculator.Report
import Calculator.Tool.Engine
import Calculator.Web.Body
import Calculator.Web.Host
import Calculator.Web.Origin

/-!
# The web server

The endpoints of the web server: three that tell about the service, and two that convert and
evaluate the expression in the body of a request.

## Main definitions

* `Endpoint`, `Endpoint.path`, `Endpoint.methods`.
* `Server.answer`: what an endpoint responds.
* `Server.route`: the response by path and method.
* `Server.respond`: the response to a request, with regard to its origin.
-/

namespace Calculator.Web

/-- What the server offers. -/
inductive Endpoint where
  /-- The service and its version. -/
  | root
  /-- Whether the server answers. -/
  | ping
  /-- What the server can do. -/
  | health
  /-- The postfix form of an expression. -/
  | conversion
  /-- The value of an expression. -/
  | evaluation
  deriving DecidableEq, Repr

namespace Endpoint

/-- All endpoints. -/
def all : List Endpoint := [.root, .ping, .health, .conversion, .evaluation]

/-- Where an endpoint is found. -/
def path : Endpoint → String
  | .root => "/"
  | .ping => "/ping"
  | .health => "/health"
  | .conversion => "/postfix"
  | .evaluation => "/evaluate"

/-- The methods of an endpoint, in order. -/
def methods : Endpoint → List String
  | .conversion => ["POST"]
  | .evaluation => ["POST"]
  | _ => ["GET", "HEAD"]

/-- Whether a path leads to an endpoint. A line feed at its end does not matter. -/
def isAt (endpoint : Endpoint) (path : String) : Bool :=
  path = endpoint.path || path = endpoint.path ++ "\n"

/-- The endpoint that a path leads to. -/
def at? (path : String) : Option Endpoint := all.find? (fun endpoint => endpoint.isAt path)

end Endpoint

/-- A web server. -/
structure Server where
  /-- Where expressions are handed to. -/
  engine : Engine

namespace Server

/-- The name of the service. -/
def serviceName : String := "rpncalc-web"

/-- The version of the service. -/
def version : String := "0.1.0"

/-- A JSON response. A value that cannot be written as strict JSON cannot be sent, nor can lone
surrogates, for which there are `standIns`. -/
def jsonResponse (status : Nat) (value : Json)
    (standIns : Option Text.Surrogate.Block := none) : Run Response :=
  match value.write .compact true with
  | .error fault => Run.fail fault
  | .ok body =>
    match standIns.bind (·.complaint? body) with
    | none => return .json status body
    | some complaint => Run.fail (.internal "UnicodeEncodeError" complaint)

/-- The response to a failure. Foreseen failures are reported to the caller. -/
def faultResponse (endpoint : Endpoint) (fault : Fault)
    (standIns : Option Text.Surrogate.Block := none) : Run Response :=
  match fault with
  | .internal _ _ => Run.fail fault
  | .wordless _ _ => Run.fail fault
  | _ => do
    Run.log .warning "Request rejected"
      [("path", .str endpoint.path), ("error_type", .str fault.kind), ("error", .str fault.message)]
    let report ← Run.ofExcept (Report.ofFault fault)
    jsonResponse fault.status report.toWeb (fault.standIns standIns)

/-- The response of an operation to the expression in the body of a request. -/
def run (endpoint : Endpoint) (request : Request) (operation : String → Run Answer) :
    Run Response :=
  match Body.read request.body with
  | .error e => faultResponse endpoint (Body.unreadable e)
  | .ok body => ExceptT.mk do
    let answer ← ExceptT.run (do
      let text ← Run.ofExcept body.expression
      operation text)
    match answer with
    | .ok answer =>
      ExceptT.run (jsonResponse 200 (.obj (("status", .str "ok") :: answer.members)) body.standIns)
    | .error fault => ExceptT.run (faultResponse endpoint fault body.standIns)

/-- What an endpoint responds. -/
def answer (server : Server) (settings : Settings) (request : Request) :
    Endpoint → Run Response
  | .root =>
    jsonResponse 200 (.obj [("service", .str serviceName), ("status", .str "ok"),
      ("version", .str version)])
  | .ping => jsonResponse 200 (.obj [("status", .str "ok"), ("service", .str serviceName)])
  | .health =>
    jsonResponse 200 (.obj [("status", .str "healthy"), ("service", .str serviceName),
      ("capabilities", .obj server.engine.descriptions)])
  | .conversion => run .conversion request (server.engine.toPostfix settings)
  | .evaluation => run .evaluation request (server.engine.evaluate settings)

/-- A path without the slashes at its end, or with one more if it has none there. -/
def otherPath (path : String) : String :=
  if path.toList.getLast? = some '/' then
    String.ofList (path.toList.reverse.dropWhile (· = '/')).reverse
  else path ++ "/"

/-- An address as it is written in a header. -/
def written (address : String) : String :=
  String.ofList (address.toList.flatMap (fun c => if c = '\n' then ['%', '0', 'A'] else [c]))

/-- Where the caller reaches the server: at the host it named, if that is one, or where the server
listens. -/
def reachedAt? (request : Request) : Option String :=
  ((request.header? "host").filter Host.isHost).or request.server

/-- Send the caller to the other spelling of a path. -/
def redirect (request : Request) (path : String) : Response :=
  let root := match reachedAt? request with
    | some host => "http://" ++ host
    | none => ""
  ⟨307, [("location", written (root ++ path))], ""⟩

/-- The response by path and method. A path that differs from that of an endpoint only by slashes
at its end is redirected. -/
def route (server : Server) (settings : Settings) (request : Request) : Run Response :=
  match Endpoint.at? request.path with
  | some endpoint =>
    if endpoint.methods.contains request.method then server.answer settings request endpoint
    else
      let allowed := String.intercalate ", " endpoint.methods
      return .plain 405 "Method Not Allowed" [("allow", allowed)]
  | none =>
    if request.path ≠ "/" && (Endpoint.at? (otherPath request.path)).isSome then
      return redirect request (otherPath request.path)
    else return .plain 404 "Not Found" []

/-- The response to a request. There is none after a failure that nobody foresaw. -/
def respond (server : Server) (settings : Settings) (request : Request) : Run Response :=
  match request.header? "origin" with
  | none => server.route settings request
  | some _ =>
    if Origin.isPreflight request then return Origin.preflight request
    else Origin.permit <$> server.route settings request

end Server

end Calculator.Web
