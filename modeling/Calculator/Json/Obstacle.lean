import Calculator.Decimal.Text
import Calculator.Json.Display
import Calculator.Text.Integer

/-!
# Values that cannot be written

A writer goes through a value from the front to the back, and it may meet something that it cannot
write: an integer with too many digits, lists and objects that are nested too deep, or, where JSON
has to be strict, a float that is not finite. What it meets first is what it fails for.

## Main definitions

* `Obstacle`: what a writer can fail for.
* `Json.obstacle?`: what a writer of a value meets first.
* `Json.displayed`, `Json.quoted`: the text of a value, unless it cannot be written.
-/

namespace Calculator

/-- What a writer of values can fail for. -/
inductive Obstacle where
  /-- A float that is not finite. -/
  | notFinite
  /-- An integer of more than `Text.maxDigits` digits. -/
  | tooLong
  /-- Lists and objects that are nested too deep. -/
  | tooDeep
  deriving DecidableEq, Repr

namespace Json

/-- How many lists and objects may be nested in a value that is written. What is left of the stack
decides it, so this is a number for the calls of a server, and proofs use only that reports and
answers have room. -/
def maxDepth : Nat := 968

mutual

/-- What a writer of a value meets first, if lists and objects may be nested in it up to `room`. -/
def obstacle? (strict : Bool) (room : Nat) : Json → Option Obstacle
  | .int n => if Text.maxDigits < (Decimal.digitsOf n.natAbs).length then some .tooLong else none
  | .float x => if strict && !Decimal.isFinite x then some .notFinite else none
  | .arr items => if room = 0 then some .tooDeep else itemsObstacle? strict (room - 1) items
  | .obj members => if room = 0 then some .tooDeep else membersObstacle? strict (room - 1) members
  | _ => none

/-- What a writer of the items of a list meets first. -/
def itemsObstacle? (strict : Bool) (room : Nat) : List Json → Option Obstacle
  | [] => none
  | item :: rest => (obstacle? strict room item).or (itemsObstacle? strict room rest)

/-- What a writer of the members of an object meets first. -/
def membersObstacle? (strict : Bool) (room : Nat) : List (String × Json) → Option Obstacle
  | [] => none
  | (_, value) :: rest => (obstacle? strict room value).or (membersObstacle? strict room rest)

end

/-- The text of a value on its own, unless it cannot be written. -/
def displayed (value : Json) : Except Obstacle String :=
  match value.obstacle? false maxDepth with
  | none => .ok value.display
  | some obstacle => .error obstacle

/-- The text of a value as it stands in lists and objects, unless it cannot be written. -/
def quoted (value : Json) : Except Obstacle String :=
  match value.obstacle? false maxDepth with
  | none => .ok value.shown
  | some obstacle => .error obstacle

end Json

end Calculator
