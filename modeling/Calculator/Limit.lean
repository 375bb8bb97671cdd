import Calculator.Json.Display

/-!
# Length limits

The greatest number of characters of an expression. Settings read from the environment give an
integer; an override may also be a truth value, which counts as zero or one, or a float.
-/

namespace Calculator

/-- A bound on the length of an expression. -/
inductive Limit where
  /-- An integer. -/
  | whole (n : Int)
  /-- A truth value: zero or one. -/
  | flag (b : Bool)
  /-- A float. -/
  | real (x : Float)

namespace Limit

/-- The limit as it was given. -/
def toJson : Limit → Json
  | .whole n => .int n
  | .flag b => .bool b
  | .real x => .float x

/-- Read a limit; texts, lists, objects and the absent value are none. -/
def ofJson? : Json → Option Limit
  | .int n => some (.whole n)
  | .bool b => some (.flag b)
  | .float x => some (.real x)
  | _ => none

/-- The text of a limit in messages. -/
def text (limit : Limit) : String := limit.toJson.display

/-- Whether nothing at all would be allowed. -/
def isNonPositive : Limit → Bool
  | .whole n => n ≤ 0
  | .flag b => !b
  | .real x => x <= 0.0

/-- Whether a length is above the limit. -/
def isExceededBy (limit : Limit) (length : Nat) : Bool :=
  match limit with
  | .whole n => n < (length : Int)
  | .flag b => (if b then 1 else 0) < length
  | .real x => x < length.toFloat

end Limit

end Calculator
