import Calculator.Web.Message

/-!
# Requests from other origins

Browsers ask before they send a request to another origin. The server lets every origin use the
methods `GET` and `POST` with any headers, and says so in its responses. It is no part of a private
network, so it refuses those who ask for one.
-/

namespace Calculator.Web.Origin

/-- The methods that other origins may use. -/
def methods : List String := ["GET", "POST"]

/-- How many seconds a browser may remember the permission. -/
def maxAge : Nat := 600

/-- The header that names the origin which may read a response. -/
def allowOrigin : String := "access-control-allow-origin"

/-- Whether a request asks for permission. -/
def isPreflight (request : Request) : Bool :=
  request.method = "OPTIONS" && (request.header? "access-control-request-method").isSome

/-- The headers of a permission. Headers that were asked for are granted. -/
def preflightHeaders (request : Request) : List (String × String) :=
  [(allowOrigin, "*"), ("access-control-allow-methods", String.intercalate ", " methods),
    ("access-control-max-age", toString maxAge)] ++
    (match request.header? "access-control-request-headers" with
    | some names => [("access-control-allow-headers", names)]
    | none => [])

/-- Whether the method that a request asks for is refused. -/
def refusesMethod (request : Request) : Bool :=
  !methods.contains ((request.header? "access-control-request-method").getD "")

/-- Whether a request asks for access to a private network, which is always refused. -/
def refusesNetwork (request : Request) : Bool :=
  (request.header? "access-control-request-private-network").isSome

/-- What a request asks for in vain. -/
def refusals (request : Request) : List String :=
  (if refusesMethod request then ["method"] else []) ++
    (if refusesNetwork request then ["private-network"] else [])

/-- The response to a request for permission. -/
def preflight (request : Request) : Response :=
  match refusals request with
  | [] => .plain 200 "OK" (preflightHeaders request)
  | refused =>
    .plain 400 ("Disallowed CORS " ++ String.intercalate ", " refused) (preflightHeaders request)

/-- Let every origin read a response. -/
def permit (response : Response) : Response :=
  { response with headers := response.headers ++ [(allowOrigin, "*")] }

end Calculator.Web.Origin
