/-!
# Web messages

Requests and responses. Headers are known by their names in lowercase; of several headers with one
name the first counts.
-/

namespace Calculator.Web

/-- A request. -/
structure Request where
  /-- The method, as it was sent. -/
  method : String
  /-- The path. -/
  path : String
  /-- The bytes of the body. -/
  body : List UInt8 := []
  /-- The headers, in order. -/
  headers : List (String × String) := []
  /-- The address at which the server listens, if it is known. -/
  server : Option String := none

/-- The value of the first header with a given name. -/
def Request.header? (request : Request) (name : String) : Option String :=
  (request.headers.find? (fun header => header.1 = name)).map (·.2)

/-- A response. -/
structure Response where
  /-- The status. -/
  status : Nat
  /-- The headers, their names in lowercase. -/
  headers : List (String × String)
  /-- The body. -/
  body : String

/-- A response in plain text. -/
def Response.plain (status : Nat) (body : String) (headers : List (String × String)) : Response :=
  ⟨status, headers ++ [("content-type", "text/plain; charset=utf-8")], body⟩

/-- A response in JSON. -/
def Response.json (status : Nat) (body : String) : Response :=
  ⟨status, [("content-type", "application/json")], body⟩

/-- The response that a client gets when there is none because of a failure nobody foresaw. -/
def Response.serverError : Response := .plain 500 "Internal Server Error" []

end Calculator.Web
