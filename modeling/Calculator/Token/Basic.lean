/-!
# Operators and tokens

The five binary operators with their binding strength and their meaning on floats, and the tokens
that expressions are made of. A token pairs a kind with a text, and a number carries its value; a
token list that comes from outside may hold operators with any text and numbers without a value.

## Main definitions

* `Operator`, `Operator.symbol`, `Operator.ofSymbol?`, `Operator.precedence`, `Operator.apply`.
* `Token`, `Token.precedence`.
-/

namespace Calculator

/-- The binary operators. -/
inductive Operator where
  /-- The power of a base. -/
  | power
  /-- The product. -/
  | times
  /-- The quotient. -/
  | divide
  /-- The sum. -/
  | plus
  /-- The difference. -/
  | minus
  deriving DecidableEq, Repr

namespace Operator

/-- The operators, the tightest binding first. -/
def all : List Operator := [.power, .times, .divide, .plus, .minus]

/-- The sign of an operator in an expression. -/
def symbol : Operator → String
  | .power => "^"
  | .times => "*"
  | .divide => "/"
  | .plus => "+"
  | .minus => "-"

/-- The operator with a given sign. -/
def ofSymbol? (text : String) : Option Operator := all.find? (fun o => o.symbol = text)

/-- Binding strength: higher binds tighter, and equal strength groups from the left. -/
def precedence : Operator → Nat
  | .power => 3
  | .times => 2
  | .divide => 2
  | .plus => 1
  | .minus => 1

/-- A power. Reciprocals, roots and squares are rounded once, as a quotient, a root and a product
are, so negative zero is its own root, and negative infinity has none. -/
def raise (base exponent : Float) : Float :=
  if exponent == -1.0 then 1.0 / base
  else if exponent == 0.0 then 1.0
  else if exponent == 0.5 then Float.sqrt base
  else if exponent == 1.0 then base
  else if exponent == 2.0 then base * base
  else Float.pow base exponent

/-- The value of an operation in double precision, with infinities and the value that is no number
as results rather than failures. -/
def apply : Operator → Float → Float → Float
  | .power, a, b => raise a b
  | .times, a, b => a * b
  | .divide, a, b => a / b
  | .plus, a, b => a + b
  | .minus, a, b => a - b

/-- The sign of an operator leads back to it. -/
theorem ofSymbol?_symbol (o : Operator) : ofSymbol? o.symbol = some o := by
  cases o <;> decide

/-- Only its own sign leads to an operator. -/
theorem symbol_of_ofSymbol? {text : String} {o : Operator} (h : ofSymbol? text = some o) :
    o.symbol = text := by
  simpa using List.find?_some h

end Operator

namespace Token

/-- What a token is. -/
inductive Kind where
  /-- A number literal. -/
  | number
  /-- A binary operator. -/
  | operator
  /-- An opening parenthesis. -/
  | leftParen
  /-- A closing parenthesis. -/
  | rightParen
  deriving DecidableEq, Repr

/-- The name of a kind. -/
def Kind.name : Kind → String
  | .number => "number"
  | .operator => "operator"
  | .leftParen => "left_paren"
  | .rightParen => "right_paren"

/-- The kind with a given name. -/
def Kind.ofName? (name : String) : Option Kind :=
  [Kind.number, .operator, .leftParen, .rightParen].find? (fun kind => kind.name = name)

end Token

/-- A single lexical element of an expression. -/
structure Token where
  /-- What the token is. -/
  kind : Token.Kind
  /-- The text it was written as. -/
  text : String
  /-- The value of a number. -/
  value : Option Float := none

namespace Token

/-- Whether a token is an operator. -/
def isOperator (token : Token) : Bool := token.kind = .operator

/-- Whether a token opens a group. -/
def isLeftParen (token : Token) : Bool := token.kind = .leftParen

/-- Binding strength of an operator token; zero for an operator without a known sign and for every
other token. -/
def precedence (token : Token) : Nat :=
  if token.isOperator then
    match Operator.ofSymbol? token.text with
    | some o => o.precedence
    | none => 0
  else 0

/-- The float that a number token stands for; without a value it is no number. -/
def toFloat (token : Token) : Float := token.value.getD (0.0 / 0.0)

end Token

end Calculator
