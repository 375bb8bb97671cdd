import Calculator.Tool.Arithmetic

/-!
# Engines

An engine holds capabilities by name and gives direct access to conversion and evaluation, as long
as the expression capability is among them.
-/

namespace Calculator

/-- A capability of an engine, and whether it offers conversion and evaluation directly. -/
structure Engine.Part where
  /-- The capability. -/
  capability : Capability
  /-- Whether expressions can be handed to it. -/
  takesExpressions : Bool

/-- Capabilities by name. -/
structure Engine where
  /-- The capabilities, in order of first registration. -/
  parts : Table Engine.Part := []

namespace Engine

/-- Register a capability; one of the same name is replaced. -/
def register (engine : Engine) (part : Part) : Engine :=
  ⟨Table.insert engine.parts part.capability.name part⟩

/-- Set up an engine with the expression capability. -/
def make : Traced Engine := do
  let capability ← Capability.makeExpression
  let engine := ({} : Engine).register ⟨capability, true⟩
  Traced.log .info "MathEngine initialized"
    [("capabilities", .texts (Table.keys engine.parts))]
  return engine

/-- The capability with a given name. -/
def capability? (engine : Engine) (name : String) : Option Capability :=
  (Table.get? engine.parts name).map Part.capability

/-- Take a capability away. -/
def drop (engine : Engine) (name : String) : Engine := ⟨Table.erase engine.parts name⟩

/-- What each capability is for. -/
def descriptions (engine : Engine) : Fields :=
  engine.parts.map (fun (name, part) => (name, .str part.capability.description))

/-- Hand an expression to the expression capability. -/
def direct (engine : Engine) (operation : String) (answer : Run Answer) : Run Answer :=
  match Table.get? engine.parts Arithmetic.capabilityName with
  | none => Run.fail (.internal "RuntimeError" "ExpressionCapability not registered")
  | some part =>
    if part.takesExpressions then answer
    else Run.fail (.internal "AttributeError"
      ("'" ++ part.capability.name ++ "' object has no attribute '" ++ operation ++ "'"))

/-- The postfix form of an expression. -/
def toPostfix (engine : Engine) (settings : Settings) (text : String) : Run Answer :=
  engine.direct "to_postfix" (Arithmetic.postfixAnswer settings text)

/-- The value of an expression. -/
def evaluate (engine : Engine) (settings : Settings) (text : String) : Run Answer :=
  engine.direct "evaluate" (Arithmetic.valueAnswer settings text)

end Engine

end Calculator
