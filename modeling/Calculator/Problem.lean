import Calculator.Expression.Error
import Calculator.Json.Printer
import Calculator.Settings

/-!
# Problems and faults

A `Problem` is a failure that the program foresees: it belongs to a class and carries a code, a
message and details. A `Fault` is any failure: a problem, a request whose data does not fit, or an
internal failure, of which only the kind and the message are known. An internal failure may have no
message: then it fails in its turn to tell one.

## Main definitions

* `Problem.Class`: the classes, and which class refines which.
* `Problem.invalidToken`, `Problem.malformed`, …: the problem of each class.
* `ExpressionError.toProblem`, `SettingsError.toProblem`: causes as problems.
* `Problem.IsMalformedFor`: what a defect of an expression is reported as.
* `Fault`, `Fault.kind`, `Fault.wording`.
* `Json.toText`, `Json.write`: what is written of a value, or the failure to write it.
-/

namespace Calculator

/-- The classes of problems. -/
inductive Problem.Class where
  /-- Any problem. -/
  | general
  /-- A request or an argument that is not valid. -/
  | validation
  /-- Settings that are missing or malformed. -/
  | configuration
  /-- A tool or capability that cannot be found or registered. -/
  | registry
  /-- Tool arguments that are missing or of the wrong type. -/
  | invalidInput
  /-- Any problem with an expression. -/
  | expression
  /-- A fragment that is no token. -/
  | invalidToken
  /-- Tokens that form no expression. -/
  | malformed
  /-- An expression of nothing. -/
  | empty
  /-- An expression above the length limit. -/
  | tooLong
  deriving DecidableEq, Repr

namespace Problem.Class

/-- All classes. -/
def all : List Problem.Class :=
  [.general, .validation, .configuration, .registry, .invalidInput, .expression, .invalidToken,
    .malformed, .empty, .tooLong]

/-- The name of a class in answers and log entries. -/
def name : Problem.Class → String
  | .general => "RpnCalcError"
  | .validation => "ValidationError"
  | .configuration => "ConfigurationError"
  | .registry => "RegistryError"
  | .invalidInput => "InvalidInputError"
  | .expression => "ExpressionError"
  | .invalidToken => "InvalidTokenError"
  | .malformed => "MalformedExpressionError"
  | .empty => "EmptyExpressionError"
  | .tooLong => "ExpressionTooLongError"

/-- The class with a given name. -/
def ofName? (name : String) : Option Problem.Class := all.find? (fun c => c.name = name)

/-- A class and the classes it refines, the closest first. -/
def ancestry : Problem.Class → List Problem.Class
  | .general => [.general]
  | .validation => [.validation, .general]
  | .configuration => [.configuration, .general]
  | .registry => [.registry, .general]
  | .invalidInput => [.invalidInput, .validation, .general]
  | .expression => [.expression, .general]
  | .invalidToken => [.invalidToken, .expression, .general]
  | .malformed => [.malformed, .expression, .general]
  | .empty => [.empty, .expression, .general]
  | .tooLong => [.tooLong, .expression, .general]

/-- Whether a class is `other` or refines it. -/
def refines (c other : Problem.Class) : Bool := c.ancestry.contains other

end Problem.Class

/-- A failure that the program foresees. -/
structure Problem where
  /-- The class. -/
  kind : Problem.Class
  /-- The code by which programs tell problems apart. -/
  code : String
  /-- The message for people. -/
  message : String
  /-- What there is to know beyond the message. -/
  details : Fields := []
  /-- The token or the reason that the problem was made for. -/
  subject : Fields := []
  /-- The block of the stand-ins for lone surrogates in what the problem tells, if there are any. -/
  standIns : Option Text.Surrogate.Block := none

namespace Problem

/-- A problem without a code of its own. -/
def general (code message : String) (details : Fields) : Problem :=
  { kind := .general, code, message, details }

/-- A request or an argument that is not valid. -/
def validation (message : String) (details : Fields) : Problem :=
  { kind := .validation, code := "VALIDATION_ERROR", message, details }

/-- Settings that are missing or malformed. -/
def configuration (message : String) (details : Fields) : Problem :=
  { kind := .configuration, code := "CONFIGURATION_ERROR", message, details }

/-- A tool or capability that cannot be found or registered. -/
def registry (message : String) (details : Fields) : Problem :=
  { kind := .registry, code := "REGISTRY_ERROR", message, details }

/-- Tool arguments that are missing or of the wrong type. -/
def invalidInput (message : String) (details : Fields) : Problem :=
  { kind := .invalidInput, code := "INVALID_INPUT", message, details }

/-- A problem with an expression, without a class of its own. -/
def expression (code message : String) (details : Fields) : Problem :=
  { kind := .expression, code, message, details }

/-- A fragment that is no token. Further details may replace the token's own. -/
def invalidToken (token : Json) (details : Fields) : Problem :=
  { kind := .invalidToken
    code := "INVALID_TOKEN"
    message := "Invalid token: '" ++ token.display ++ "'"
    details := Table.merge [("token", token)] details
    subject := [("token", token)] }

/-- Tokens that form no expression. Further details may replace the reason. -/
def malformed (message : String) (reason : Json) (details : Fields) : Problem :=
  { kind := .malformed
    code := "MALFORMED_EXPRESSION"
    message
    details := Table.merge [("reason", reason)] details
    subject := [("reason", reason)] }

/-- An expression of nothing. -/
def empty (message : String) : Problem :=
  { kind := .empty, code := "EMPTY_EXPRESSION", message }

/-- An expression above the length limit. -/
def tooLong (length limit : Json) : Problem :=
  { kind := .tooLong
    code := "EXPRESSION_TOO_LONG"
    message := "Expression length " ++ length.display ++ " exceeds limit of " ++ limit.display ++
      " characters"
    details := [("length", length), ("limit", limit)] }

/-- The problem in the form of diagnostics. -/
def inspect (problem : Problem) : String :=
  problem.kind.name ++ "(code=" ++ Text.quoted problem.code ++ ", message=" ++
    Text.quoted problem.message ++ ")"

end Problem

/-- The problem with a rejected expression. -/
def ExpressionError.toProblem : ExpressionError → Problem
  | .invalidToken text position =>
    .invalidToken (.str text)
      (match position with
      | some p => [("position", .nat p)]
      | none => [])
  | .malformed defect => .malformed defect.message (.str defect.reason) defect.details
  | .empty => .empty "Expression is empty"
  | .tooLong length limit => .tooLong (.nat length) limit.toJson

/-- A malformed expression, with the reason in front of what else there is to know. -/
def Problem.IsMalformedFor (problem : Problem) (reason : String) (details : Fields) : Prop :=
  problem.kind = .malformed ∧ problem.code = "MALFORMED_EXPRESSION" ∧
    problem.details = ("reason", .str reason) :: details

/-- Every defect makes an expression malformed, for the reason and with the details of the
defect. -/
theorem Defect.isMalformedFor (defect : Defect) :
    (ExpressionError.malformed defect).toProblem.IsMalformedFor defect.reason defect.details := by
  cases defect <;> exact ⟨rfl, rfl, rfl⟩

/-- One thing that is wrong with the data of a request. -/
structure Issue where
  /-- The path to what is wrong. -/
  path : List String
  /-- The wording. -/
  message : String
  /-- The kind of issue. -/
  type : String
  deriving DecidableEq, Repr

/-- A failure of any kind. -/
inductive Fault where
  /-- A failure that the program foresees. -/
  | problem (problem : Problem)
  /-- A request whose data does not fit. -/
  | invalidRequest (issues : List Issue)
  /-- A failure that nobody foresaw. -/
  | internal (kind message : String)
  /-- A failure that nobody foresaw, and that fails for a reason of its own to tell a message. -/
  | wordless (kind : String) (reason : Fault)

namespace Fault

/-- The name of the kind of a failure. -/
def kind : Fault → String
  | .problem p => p.kind.name
  | .invalidRequest _ => "ValidationError"
  | .internal kind _ => kind
  | .wordless kind _ => kind

/-- The message of a failure, or of what it fails for if it has none. -/
def message : Fault → String
  | .problem p => p.message
  | .invalidRequest issues => s!"Validation failed: {issues.length} error(s)"
  | .internal _ message => message
  | .wordless _ reason => reason.message

/-- The wording of a failure, or the failure to tell it. -/
def wording : Fault → Except Fault String
  | .wordless _ reason => .error reason
  | fault => .ok fault.message

/-- What is left of a failure where its wording is asked for. -/
def worded : Fault → Fault
  | .wordless _ reason => reason
  | fault => fault

/-- The block of the stand-ins for lone surrogates in what a failure tells: a problem with the
settings quotes these, and any other failure the request, for which there is `ofRequest`. -/
def standIns (ofRequest : Option Text.Surrogate.Block) : Fault → Option Text.Surrogate.Block
  | .problem p => if p.kind = .configuration then p.standIns else ofRequest
  | _ => ofRequest

end Fault

/-! ### Values that cannot be written -/

/-- The failure of a writer at an obstacle, with what it was doing. -/
def Obstacle.toFault (activity : String) : Obstacle → Fault
  | .notFinite => .internal "ValueError" "Out of range float values are not JSON compliant"
  | .tooLong => .internal "ValueError" ("Exceeds the limit (" ++ toString Text.maxDigits ++
      " digits) for integer string conversion; " ++
      "use sys.set_int_max_str_digits() to increase the limit")
  | .tooDeep => .internal "RecursionError" ("maximum recursion depth exceeded while " ++ activity)

namespace Json

/-- What is done where a value is displayed. -/
def displaying : String := "getting the repr of an object"

/-- What is done where a value is written as JSON. -/
def encoding : String := "encoding a JSON object"

/-- The text of a value on its own. -/
def toText (value : Json) : Except Fault String :=
  value.displayed.mapError (Obstacle.toFault displaying)

/-- The text of a value as it stands in lists and objects. -/
def toQuotedText (value : Json) : Except Fault String :=
  value.quoted.mapError (Obstacle.toFault displaying)

/-- The value as JSON. -/
def write (layout : Layout) (strict : Bool) (value : Json) : Except Fault String :=
  (value.encode layout strict).mapError (Obstacle.toFault encoding)

/-- A text is displayed as it is. -/
@[simp]
theorem toText_str (text : String) : toText (.str text) = .ok text := rfl

variable {value : Json} {layout : Layout} {strict : Bool} {text : String} {obstacle : Obstacle}

/-- What is displayed of a value fails for the obstacle in it. -/
theorem toText_of_obstacle (h : value.obstacle? false maxDepth = some obstacle) :
    value.toText = .error (obstacle.toFault displaying) := by
  rw [toText, displayed, h]
  rfl

/-- A value is displayed unless there is an obstacle in it. -/
theorem toText_eq_ok_iff :
    value.toText = .ok text ↔ value.obstacle? false maxDepth = none ∧ value.display = text := by
  cases h : value.obstacle? false maxDepth with
  | none =>
      have hshown : value.toText = .ok value.display := by
        rw [toText, displayed, h]
        rfl
      simp [hshown]
  | some obstacle => simp [toText_of_obstacle h]

/-- What is written of a value fails for the obstacle in it. -/
theorem write_of_obstacle (h : value.obstacle? strict maxDepth = some obstacle) :
    value.write layout strict = .error (obstacle.toFault encoding) := by
  rw [write, encode, h]
  rfl

/-- A value is written as JSON unless there is an obstacle in it. -/
theorem write_eq_ok_iff :
    value.write layout strict = .ok text ↔
      value.obstacle? strict maxDepth = none ∧ value.render layout = text := by
  cases h : value.obstacle? strict maxDepth with
  | none =>
      have hwritten : value.write layout strict = .ok (value.render layout) := by
        rw [write, encode, h]
        rfl
      simp [hwritten]
  | some obstacle => simp [write_of_obstacle h]

end Json

/-- The failure of an expression. -/
def ExpressionError.toFault (error : ExpressionError) : Fault := .problem error.toProblem

/-- The problem with the settings. -/
def SettingsError.toProblem (error : SettingsError) : Problem :=
  { Problem.configuration error.message error.details with standIns := error.standIns }

/-- The failure of the settings; a limit that cannot be compared at all is not foreseen. -/
def SettingsError.toFault : SettingsError → Fault
  | .notNumeric type => .internal "TypeError" (SettingsError.notNumeric type).message
  | error => .problem error.toProblem

end Calculator
