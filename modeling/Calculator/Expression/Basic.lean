import Calculator.Journal.Event
import Calculator.Postfix.Conversion
import Calculator.Postfix.Evaluation

/-!
# Expressions

From a text to its tokens, to its postfix form and to its value. An `Expression` holds a text and
remembers its tokens and its postfix form once they are known; replacing the text forgets neither.

## Main definitions

* `fragments`, `tokenize`: the pieces of a text within the length limit.
* `convert`, `compute`: conversion and evaluation, reported as events.
* `Expression.tokens`, `Expression.postfixTokens`, `Expression.postfixText`, `Expression.evaluate`:
  what an expression answers, and the expression afterwards.
* `toPostfixText`, `evaluate`, `tryEvaluate`: the same for a text.
-/

namespace Calculator

/-! ### From a text to tokens -/

/-- Refuse a text that is longer than the limit. -/
def checkLength (limit : Limit) (text : String) : Except ExpressionError Unit :=
  if limit.isExceededBy text.length then .error (.tooLong text.length limit) else .ok ()

/-- The fragments of a text within the limit. -/
def splitWithin (limit : Limit) (text : String) : Except ExpressionError (List String) :=
  match checkLength limit text with
  | .ok () => .ok (Fragment.split text)
  | .error error => .error error

/-- The tokens of a text within the limit. -/
def tokenizeWithin (limit : Limit) (text : String) : Except ExpressionError (List Token) :=
  match splitWithin limit text with
  | .ok texts => readTexts texts
  | .error error => .error error

/-- Do something that needs the length limit. -/
def withLimit {α : Type} (settings : Settings) (action : Limit → Except ExpressionError α) :
    Except Fault α :=
  match settings.lengthLimit with
  | .ok limit => (action limit).mapError ExpressionError.toFault
  | .error error => .error error.toFault

/-- The fragments of a text. -/
def fragments (settings : Settings) (text : String) : Except Fault (List String) :=
  withLimit settings (splitWithin · text)

/-- The tokens of a text. -/
def tokenize (settings : Settings) (text : String) : Except Fault (List Token) :=
  withLimit settings (tokenizeWithin · text)

/-! ### From tokens to a value -/

/-- The tokens in postfix order. A conversion is reported. -/
def convert (tokens : List Token) : Traced (Except Fault (List Token)) :=
  match toPostfix tokens with
  | .error defect => pure (.error (ExpressionError.malformed defect).toFault)
  | .ok listing => do
    Traced.log .debug "Converted to postfix" [("postfix", .str (joinTexts listing))]
    return .ok listing

/-- The value of tokens in postfix order. An evaluation is reported. -/
def compute (tokens : List Token) : Traced (Except Fault Float) :=
  match evaluatePostfix Arithmetic.float tokens with
  | .error error => pure (.error error.toFault)
  | .ok value => do
    Traced.log .debug "Evaluated postfix" [("tokens", .nat tokens.length), ("result", .float value)]
    return .ok value

/-- The value of items in postfix order: first all of them are read, then they are evaluated. -/
def computeItems (items : List Item) : Traced (Except Fault Float) :=
  match readItems items with
  | .error error => pure (.error error.toFault)
  | .ok tokens => compute tokens

/-- The value of a text in postfix order. -/
def computeText (text : String) : Traced (Except Fault Float) :=
  computeItems ((Text.words text).map .text)

/-! ### Expressions that remember -/

/-- A text, with what is already known of it. -/
structure Expression where
  /-- The text. -/
  source : String
  /-- The tokens, once they are known. -/
  tokenCache : Option (List Token) := none
  /-- The tokens in postfix order, once they are known. -/
  postfixCache : Option (List Token) := none

namespace Expression

/-- The expression in the form of diagnostics. -/
def inspect (expression : Expression) : String :=
  "Expression(" ++ Text.quoted expression.source ++ ")"

/-- Whether the text holds nothing but blanks. -/
def isEmpty (expression : Expression) : Bool := Text.isBlankText expression.source

/-- Replace the text. What is known is kept. -/
def replaceSource (expression : Expression) (source : String) : Expression :=
  { expression with source }

/-- The tokens: the known ones, else those of the text, which are known from then on. -/
def tokens (expression : Expression) (settings : Settings) :
    Except Fault (List Token) × Expression :=
  match expression.tokenCache with
  | some known => (.ok known, expression)
  | none =>
    match tokenize settings expression.source with
    | .ok found => (.ok found, { expression with tokenCache := some found })
    | .error fault => (.error fault, expression)

/-- The tokens in postfix order: the known ones, else those converted from the tokens. -/
def postfixTokens (expression : Expression) (settings : Settings) :
    Traced (Except Fault (List Token) × Expression) :=
  match expression.postfixCache with
  | some known => pure (.ok known, expression)
  | none =>
    match expression.tokens settings with
    | (.error fault, after) => pure (.error fault, after)
    | (.ok found, after) => do
      match ← convert found with
      | .ok listing => return (.ok listing, { after with postfixCache := some listing })
      | .error fault => return (.error fault, after)

/-- The postfix form as a text: the texts of the tokens, separated by spaces. A blank text has an
empty one. -/
def postfixText (expression : Expression) (settings : Settings) :
    Traced (Except Fault String × Expression) :=
  if expression.isEmpty then pure (.ok "", expression)
  else do
    match ← expression.postfixTokens settings with
    | (.ok listing, after) => return (.ok (joinTexts listing), after)
    | (.error fault, after) => return (.error fault, after)

/-- The value. A blank text has none. -/
def evaluate (expression : Expression) (settings : Settings) :
    Traced (Except Fault Float × Expression) :=
  if expression.isEmpty then pure (.error ExpressionError.empty.toFault, expression)
  else do
    match ← expression.postfixTokens settings with
    | (.ok listing, after) =>
      let value ← compute listing
      return (value, after)
    | (.error fault, after) => return (.error fault, after)

end Expression

/-! ### Texts -/

/-- The postfix form of a text. -/
def toPostfixText (settings : Settings) (text : String) : Run String :=
  ExceptT.mk do return (← (Expression.mk text none none).postfixText settings).1

/-- The value of a text. -/
def evaluate (settings : Settings) (text : String) : Run Float :=
  ExceptT.mk do return (← (Expression.mk text none none).evaluate settings).1

/-- The outcome of an evaluation that does not fail for what is wrong with the expression. -/
inductive Evaluated where
  /-- The value. -/
  | value (value : Float)
  /-- What is wrong with the expression. -/
  | rejected (problem : Problem)

/-- Keep a problem with an expression as an outcome; other failures stay failures. -/
def Evaluated.ofResult : Except Fault Float → Except Fault Evaluated
  | .ok x => .ok (.value x)
  | .error (.problem p) =>
    if p.kind.refines .expression then .ok (.rejected p) else .error (.problem p)
  | .error fault => .error fault

/-- The value of a text, or what is wrong with it. -/
def tryEvaluate (settings : Settings) (text : String) : Run Evaluated :=
  ExceptT.mk do return Evaluated.ofResult (← ExceptT.run (evaluate settings text))

end Calculator
