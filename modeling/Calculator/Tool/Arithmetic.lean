import Calculator.Expression.Basic
import Calculator.Tool.Basic

/-!
# The expression capability

The tools that convert and evaluate expressions and list the operators. A value that is not finite
is answered by its name, because JSON has no number for it.

## Main definitions

* `Arithmetic.postfixAnswer`, `Arithmetic.valueAnswer`, `Arithmetic.operatorsAnswer`.
* `Capability.expression`: the capability.
-/

namespace Calculator

namespace Arithmetic

/-- The name of the capability. -/
def capabilityName : String := "expression"

/-- What the capability is for. -/
def capabilityDescription : String :=
  "Infix arithmetic expressions: postfix conversion and evaluation"

/-- The text of the capability as an argument in an event. -/
def capabilityText : String :=
  "<rpncalc.math_engine.capabilities.expression.ExpressionCapability object at 0x?>"

/-- The schema of the tools that take an expression. -/
def expressionSchema : Json :=
  .obj [("type", .str "object"),
    ("properties", .obj [("expression", .obj [("type", .str "string"),
      ("description", .str ("Infix arithmetic expression, e.g. '(3+4)*2'. " ++
        "Supports + - * / ^, parentheses and decimal numbers."))])]),
    ("required", .texts ["expression"])]

/-- The schema of the tools that take nothing. -/
def emptySchema : Json := .obj [("type", .str "object"), ("properties", .obj [])]

/-- The tools of the capability. -/
def tools : List Tool := [
  ⟨"expr_to_postfix",
    "Convert an infix arithmetic expression to postfix (Reverse Polish) notation.",
    expressionSchema⟩,
  ⟨"expr_evaluate", "Evaluate an infix arithmetic expression (+ - * / ^ and parentheses).",
    expressionSchema⟩,
  ⟨"expr_list_operators", "List supported operators with their precedence.", emptySchema⟩]

/-- A value as JSON: a number, or the name of a value that is not finite. -/
def valueJson (x : Float) : Json :=
  if Decimal.isFinite x then .float x else .str (Decimal.text .words x)

/-- The postfix form of an expression as an answer. -/
def postfixAnswer (settings : Settings) (text : String) : Run Answer := do
  let listing ← toPostfixText settings text
  return ⟨.listing, .str listing⟩

/-- The value of an expression as an answer. -/
def valueAnswer (settings : Settings) (text : String) : Run Answer := do
  let value ← evaluate settings text
  Run.log .debug "Expression evaluated" [("expression", .str text), ("result", .float value)]
  return ⟨.value, valueJson value⟩

/-- One operator as JSON. -/
def operatorJson (o : Operator) : Json :=
  .obj [("precedence", .nat o.precedence), ("associativity", .str "left")]

/-- The operators as JSON. -/
def operatorsJson : Json :=
  .obj (Operator.all.map (fun o => (o.symbol, operatorJson o)))

/-- The expression among the arguments of a call. -/
def expressionArgument (arguments : Json) : Except Fault String :=
  match arguments with
  | .obj members =>
    match (Table.get? members "expression").getD .null with
    | .str text => .ok text
    | .null =>
      .error (.problem (.invalidInput "Missing required argument: expression" []))
    | other =>
      .error (.problem (.invalidInput
        ("Argument 'expression' must be a string, got " ++ other.typeName) []))
  | other =>
    .error (.internal "AttributeError" ("'" ++ other.typeName ++ "' object has no attribute 'get'"))

/-- What a call of a tool does. -/
def answer (settings : Settings) (tool : String) (arguments : Json) : Run Answer :=
  if tool = "expr_to_postfix" then do
    postfixAnswer settings (← Run.ofExcept (expressionArgument arguments))
  else if tool = "expr_evaluate" then do
    valueAnswer settings (← Run.ofExcept (expressionArgument arguments))
  else if tool = "expr_list_operators" then return ⟨.operators, operatorsJson⟩
  else Run.fail (.problem (.invalidInput ("Unknown tool: " ++ tool) []))

end Arithmetic

/-- The expression capability. Its calls report their start and their end. -/
def Capability.expression : Capability where
  name := Arithmetic.capabilityName
  description := Arithmetic.capabilityDescription
  tools := Arithmetic.tools
  handle := fun settings tool arguments =>
    Run.timed "handle" [.str Arithmetic.capabilityText, .str tool, arguments] []
      (Arithmetic.answer settings tool arguments)

/-- Set up the expression capability. -/
def Capability.makeExpression : Traced Capability := do
  Traced.log .info "ExpressionCapability initialized" []
  return .expression

end Calculator
