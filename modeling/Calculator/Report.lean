import Calculator.Problem

/-!
# Reports of failures

What a caller is told about a failure: a code, a message, details and a hint how to recover. The
tool server and the web server write the same report in two shapes.

## Main definitions

* `recoveryHint`: the hint for a code and, for malformed expressions, a reason.
* `Report.ofFault`: the report of a failure.
* `Report.toTool`, `Report.toWeb`: its two shapes.
* `Fault.status`: the HTTP status of a failure.
-/

namespace Calculator

/-- The hint for a failure that has none of its own. -/
def defaultHint : String := "Review the error message, adjust the request, and try again."

/-- The hints by code. -/
def hints : Table String := [
  ("REGISTRY_ERROR", "Call list_tools and use one of the advertised tool names."),
  ("VALIDATION_ERROR",
    "Review the error message and adjust the request parameters accordingly."),
  ("PYDANTIC_VALIDATION_ERROR", "Send a JSON object with a single string field 'expression'."),
  ("CONFIGURATION_ERROR", "Check the RPNCALC_* environment variables and restart the service."),
  ("INVALID_INPUT", "The 'expression' argument must be a string."),
  ("INVALID_TOKEN", "Use only digits, '.', the operators + - * / ^ and parentheses."),
  ("MALFORMED_EXPRESSION",
    "Check that parentheses are balanced and every operator has two operands."),
  ("EMPTY_EXPRESSION", "Provide a non-empty expression such as '1+2'."),
  ("EXPRESSION_TOO_LONG", "Shorten the expression or split it into smaller parts."),
  ("INTERNAL_ERROR",
    "An unexpected error occurred. Please report this issue if it persists.")]

/-- The hints for malformed expressions by reason. -/
def malformedHints : Table String := [
  ("unbalanced_parentheses",
    "Balance the parentheses: close every '(' and drop any unmatched ')'."),
  ("empty_group", "Put an expression inside every pair of parentheses, e.g. '(1+2)'."),
  ("operand_underflow",
    "Give every operator a number on both sides, e.g. '3*2' rather than '3*'."),
  ("leftover_operands",
    "Join every pair of adjacent numbers with an operator, e.g. '2*3' rather than '2 3'.")]

/-- The hint for a code alone. -/
def hintOfCode (code : String) : String := (Table.get? hints code).getD defaultHint

/-- The hint for a code, refined by a reason that is known. Only malformed expressions have
reasons, and a list or an object can be looked up nowhere: such a reason is a failure itself. -/
def recoveryHint (code : String) (reason : Option Json) : Except Fault String :=
  if code = "MALFORMED_EXPRESSION" then
    match reason with
    | some (.str text) => .ok ((Table.get? malformedHints text).getD (hintOfCode code))
    | some (.arr _) => .error (.internal "TypeError" "unhashable type: 'list'")
    | some (.obj _) => .error (.internal "TypeError" "unhashable type: 'dict'")
    | _ => .ok (hintOfCode code)
  else .ok (hintOfCode code)

/-- What a caller is told about a failure. -/
structure Report where
  /-- The code by which programs tell failures apart. -/
  code : String
  /-- The message for people. -/
  message : String
  /-- What there is to know beyond the message. -/
  details : Option Fields
  /-- How to recover. -/
  hint : String

namespace Report

/-- One issue of a request as part of a report. -/
def ofIssue (issue : Issue) : Json :=
  .obj [("loc", .texts issue.path), ("msg", .str issue.message), ("type", .str issue.type)]

/-- Details that say nothing are left out. -/
def detailsOf (details : Fields) : Option Fields := if details.isEmpty then none else some details

/-- The report of a problem. -/
def ofProblem (problem : Problem) : Except Fault Report :=
  match recoveryHint problem.code (Table.get? problem.details "reason") with
  | .ok hint => .ok ⟨problem.code, problem.message, detailsOf problem.details, hint⟩
  | .error fault => .error fault

/-- The report of a failure. There is none of a failure without a wording. -/
def ofFault : Fault → Except Fault Report
  | .problem p => ofProblem p
  | .invalidRequest issues =>
    .ok ⟨"PYDANTIC_VALIDATION_ERROR", (Fault.invalidRequest issues).message,
      some [("errors", .arr (issues.map ofIssue))], hintOfCode "PYDANTIC_VALIDATION_ERROR"⟩
  | .internal kind message =>
    .ok ⟨"INTERNAL_ERROR", message, some [("exception_type", .str kind)],
      hintOfCode "INTERNAL_ERROR"⟩
  | .wordless _ reason => .error reason

/-- The details as a value. -/
def detailsJson (report : Report) : Json := .ofOption (report.details.map .obj)

/-- The report as the tool server sends it. -/
def toTool (report : Report) : Json :=
  .obj [("status", .str "error"), ("error_code", .str report.code),
    ("message", .str report.message), ("details", report.detailsJson),
    ("recovery_strategy", .str report.hint)]

/-- The report as the web server sends it. -/
def toWeb (report : Report) : Json :=
  .obj [("status", .str "error"),
    ("error", .obj [("code", .str report.code), ("message", .str report.message),
      ("details", report.detailsJson), ("recovery", .str report.hint)])]

end Report

/-- The HTTP status of a failure. -/
def Fault.status : Fault → Nat
  | .problem p =>
    if p.kind.refines .registry then 404
    else if p.kind.refines .validation then 422
    else if p.kind.refines .configuration then 500
    else 400
  | .invalidRequest _ => 422
  | _ => 500

end Calculator
