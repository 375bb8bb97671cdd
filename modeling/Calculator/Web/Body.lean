import Calculator.Json.Reader
import Calculator.Problem
import Calculator.Text.Encoding

/-!
# Request bodies

A body has to be JSON, and the JSON an object whose only member is the text `expression`. The two
ways to fail are told apart: bytes that are no JSON are one problem, and data that does not fit is
a list of issues, that of the expression first. Lone surrogates in the data are kept as stand-ins.

## Main definitions

* `Body.parse`: the value that bytes stand for.
* `Body.read`: the body that bytes stand for.
* `Body.issues`: what is wrong with a body.
* `Body.expression`: the expression of a body.
-/

namespace Calculator.Web

/-- The body of a request. -/
structure Body where
  /-- The data. -/
  data : Json
  /-- The block of the stand-ins for lone surrogates, if there are any in the data. -/
  standIns : Option Text.Surrogate.Block := none

namespace Body

/-- How many lists and objects may be nested in a body. -/
def maxDepth : Nat := 968

/-- The value that the bytes of a body stand for, with `lone` for lone surrogates. -/
def parse (lone : Nat → Char) (bytes : List UInt8) : Except Json.ReadError Json :=
  match Text.decode? lone bytes with
  | none => .error .malformed
  | some chars => Json.read lone maxDepth chars

/-- The body that bytes stand for. The first reading shows which characters occur, and the second
one takes the stand-ins from elsewhere. -/
def read (bytes : List UInt8) : Except Json.ReadError Body := do
  let plain ← parse Text.Surrogate.replacement bytes
  match Text.Surrogate.Block.free? plain.characters with
  | none => return { data := plain }
  | some block =>
    let data ← parse block.standIn bytes
    if data.characters.any block.contains then return { data, standIns := some block }
    else return { data := plain }

/-- The failure of bytes that cannot be read. -/
def unreadable : Json.ReadError → Fault
  | .malformed => .problem (.validation "Request body must be valid JSON" [])
  | .tooDeep list =>
    .internal "RecursionError" ("maximum recursion depth exceeded while decoding a JSON " ++
      (if list then "array" else "object") ++ " from a unicode string")

/-- The issue with data that is no object. -/
def notAnObject : Issue :=
  ⟨[], "Input should be a valid dictionary or instance of ExpressionRequest", "model_type"⟩

/-- The issue with an object that has a lone surrogate in a key. -/
def unreadableKey : Issue :=
  ⟨[], "Input should be a valid string, unable to parse raw data as a unicode string",
    "string_unicode"⟩

/-- The issue with an object without an expression. -/
def missing : Issue := ⟨["expression"], "Field required", "missing"⟩

/-- The issue with an expression that is no text. -/
def notAText : Issue := ⟨["expression"], "Input should be a valid string", "string_type"⟩

/-- The issue with a member that is not known. -/
def unknownMember (key : String) : Issue :=
  ⟨[key], "Extra inputs are not permitted", "extra_forbidden"⟩

/-- What is wrong with the expression among the members of an object. -/
def expressionIssues (members : Fields) : List Issue :=
  match Table.get? members "expression" with
  | none => [missing]
  | some (.str _) => []
  | some _ => [notAText]

/-- What is wrong with the other members of an object. -/
def memberIssues (members : Fields) : List Issue :=
  ((Table.keys members).filter (fun key => key ≠ "expression")).map unknownMember

/-- Whether a key of an object holds a lone surrogate. -/
def hasTornKey (body : Body) (members : Fields) : Bool :=
  match body.standIns with
  | none => false
  | some block => (Table.keys members).any (fun key => key.toList.any block.contains)

/-- What is wrong with a body. A key that cannot be read hides everything else. -/
def issues (body : Body) : List Issue :=
  match body.data with
  | .obj members =>
    if body.hasTornKey members then [unreadableKey]
    else expressionIssues members ++ memberIssues members
  | _ => [notAnObject]

/-- The expression of a body. -/
def expression (body : Body) : Except Fault String :=
  match body.issues, body.data.get? "expression" with
  | [], some (.str text) => .ok text
  | found, _ => .error (.invalidRequest found)

end Body

end Calculator.Web
