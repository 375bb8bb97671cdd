import Calculator.Token.Fragment
import Calculator.Expression.Error

/-!
# Evaluation in postfix order

Numbers are stacked, and an operator replaces the two topmost values by its result. The machine
does not look into the values: it is stated for any `Arithmetic`, of which `Arithmetic.float` is
the one in use.

## Main definitions

* `Arithmetic`: the values of numbers and the meaning of operator texts.
* `Evaluation.step`, `Evaluation.run`: what tokens do to the stack.
* `evaluatePostfix`: the value of a token list.
* `Item`, `readItems`: lists in which some tokens are still texts.
-/

namespace Calculator

/-- The values of number tokens, and the results of operators. -/
structure Arithmetic (ν : Type) where
  /-- The value of a number token. -/
  operand : Token → ν
  /-- The result of the operator with a given text, if there is one. -/
  compute? : String → ν → ν → Option ν

/-- Double precision. -/
def Arithmetic.float : Arithmetic Float where
  operand := Token.toFloat
  compute? := fun text a b => (Operator.ofSymbol? text).map (fun o => o.apply a b)

/-- The result of the operator with a given text on floats. -/
def applyOperator (text : String) (a b : Float) : Except ExpressionError Float :=
  match Arithmetic.float.compute? text a b with
  | some value => .ok value
  | none => .error (.invalidToken text none)

/-- The state of an evaluation between two tokens. -/
structure Evaluation (ν : Type) where
  /-- The values, the topmost first. -/
  values : List ν := []
  /-- The number of tokens read. -/
  position : Nat := 0

namespace Evaluation

variable {ν : Type}

/-- What one token does to the state. -/
def step (arithmetic : Arithmetic ν) (state : Evaluation ν) (token : Token) :
    Except ExpressionError (Evaluation ν) :=
  match token.kind with
  | .number => .ok ⟨arithmetic.operand token :: state.values, state.position + 1⟩
  | .operator =>
    match state.values with
    | second :: first :: below =>
      match arithmetic.compute? token.text first second with
      | some value => .ok ⟨value :: below, state.position + 1⟩
      | none => .error (.invalidToken token.text none)
    | _ => .error (.malformed (.missingOperand token.text state.position))
  | _ => .error (.invalidToken token.text (some state.position))

/-- What a token list does to the state. -/
def run (arithmetic : Arithmetic ν) (state : Evaluation ν) :
    List Token → Except ExpressionError (Evaluation ν)
  | [] => .ok state
  | token :: rest =>
    match state.step arithmetic token with
    | .ok next => run arithmetic next rest
    | .error error => .error error

/-- The one value that is left at the end. -/
def finish (state : Evaluation ν) : Except ExpressionError ν :=
  match state.values with
  | [value] => .ok value
  | values => .error (.malformed (.leftover values.length))

end Evaluation

/-- The value of tokens in postfix order. -/
def evaluatePostfix {ν : Type} (arithmetic : Arithmetic ν) (tokens : List Token) :
    Except ExpressionError ν :=
  if tokens.isEmpty then .error .empty
  else
    match Evaluation.run arithmetic {} tokens with
    | .ok state => state.finish
    | .error error => .error error

/-- A token, or a text still to be read as one. -/
inductive Item where
  /-- A token. -/
  | token (token : Token)
  /-- A text. -/
  | text (text : String)

/-- The token of an item. -/
def Item.token? : Item → Option Token
  | .token t => some t
  | .text t => Token.ofText? t

/-- The text of an item. -/
def Item.written : Item → String
  | .token t => t.text
  | .text t => t

/-- Read items as tokens; `read` holds the tokens before, last first. -/
def readInto (read : List Token) : List Item → Except ExpressionError (List Token)
  | [] => .ok read.reverse
  | item :: rest =>
    match item.token? with
    | some token => readInto (token :: read) rest
    | none => .error (.invalidToken item.written (some read.length))

/-- Read items as tokens. -/
def readItems (items : List Item) : Except ExpressionError (List Token) := readInto [] items

/-- Read texts as tokens. -/
def readTexts (texts : List String) : Except ExpressionError (List Token) :=
  readItems (texts.map .text)

end Calculator
