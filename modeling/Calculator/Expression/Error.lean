import Calculator.Limit

/-!
# What is wrong with an expression

The reasons for which an expression has no tokens, no postfix form or no value.
-/

namespace Calculator

/-- What is wrong with the shape of an expression. Positions are indexes into the token list that
was being read, except for `unclosed`. -/
inductive Defect where
  /-- A closing parenthesis directly after an opening one. -/
  | emptyGroup (position : Nat)
  /-- A closing parenthesis that closes nothing. -/
  | unmatched (position : Nat)
  /-- An opening parenthesis that nothing closes; the position counts the tokens that were already
  in postfix order when it was met. -/
  | unclosed (position : Nat)
  /-- An operator with fewer than two values before it. -/
  | missingOperand (operator : String) (position : Nat)
  /-- More than one value at the end. -/
  | leftover (count : Nat)
  deriving DecidableEq, Repr

/-- The family of a defect. -/
def Defect.reason : Defect → String
  | .emptyGroup _ => "empty_group"
  | .unmatched _ => "unbalanced_parentheses"
  | .unclosed _ => "unbalanced_parentheses"
  | .missingOperand _ _ => "operand_underflow"
  | .leftover _ => "leftover_operands"

/-- The wording of a defect. -/
def Defect.message : Defect → String
  | .emptyGroup _ => "Empty parentheses in expression"
  | .unmatched _ => "Unmatched ')' in expression"
  | .unclosed _ => "Unclosed '(' in expression"
  | .missingOperand operator _ => s!"Operator '{operator}' is missing an operand"
  | .leftover count => s!"Expression leaves {count} values instead of one"

/-- What a defect tells beyond its family. -/
def Defect.details : Defect → Fields
  | .emptyGroup position => [("position", .nat position)]
  | .unmatched position => [("position", .nat position)]
  | .unclosed position => [("position", .nat position)]
  | .missingOperand operator position =>
    [("position", .nat position), ("operator", .str operator)]
  | .leftover count => [("count", .nat count)]

/-- Why an expression was rejected. -/
inductive ExpressionError where
  /-- A text that is no token, or a token that is out of place. -/
  | invalidToken (text : String) (position : Option Nat)
  /-- Tokens that do not form an expression. -/
  | malformed (defect : Defect)
  /-- Nothing to evaluate. -/
  | empty
  /-- More characters than the limit allows. -/
  | tooLong (length : Nat) (limit : Limit)

end Calculator
