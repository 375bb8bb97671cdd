/-!
# Stacks

A last-in first-out sequence. The two requests that an empty stack cannot meet are told apart by
`Stack.Underflow`.
-/

namespace Calculator

/-- A last-in first-out sequence, top first. -/
structure Stack (α : Type) where
  /-- The elements, the most recently pushed one first. -/
  elements : List α := []

namespace Stack

variable {α : Type}

/-- What an empty stack was asked for. -/
inductive Underflow where
  /-- To give up its top. -/
  | pop
  /-- To show its top. -/
  | peek
  deriving DecidableEq, Repr

/-- The wording of an underflow. -/
def Underflow.message : Underflow → String
  | .pop => "pop from empty stack"
  | .peek => "peek at empty stack"

/-- Put a value on top. -/
def push (stack : Stack α) (value : α) : Stack α := ⟨value :: stack.elements⟩

/-- Take the top off, together with what lies below it. -/
def pop (stack : Stack α) : Except Underflow (α × Stack α) :=
  match stack.elements with
  | [] => .error .pop
  | value :: below => .ok (value, ⟨below⟩)

/-- Look at the top. -/
def peek (stack : Stack α) : Except Underflow α :=
  match stack.elements with
  | [] => .error .peek
  | value :: _ => .ok value

/-- Whether nothing is stacked. -/
def isEmpty (stack : Stack α) : Bool := stack.elements.isEmpty

/-- The number of stacked values. -/
def size (stack : Stack α) : Nat := stack.elements.length

end Stack

end Calculator
