import Calculator.Token.Basic
import Calculator.Expression.Error

/-!
# Conversion to postfix order

The shunting yard: numbers are emitted at once, operators wait on a stack until an operator that
does not bind tighter, a closing parenthesis or the end of the list lets them go. Equal binding
strength groups from the left, for powers too. Any token list may be given; only parentheses can
be wrong.

## Main definitions

* `Conversion`: the state between two tokens.
* `Conversion.step`: what one token does.
* `Conversion.run`: what a token list does.
* `Conversion.finish`: what the end of the list does.
* `toPostfix`: the whole conversion.
-/

namespace Calculator

/-- The state of a conversion between two tokens. -/
structure Conversion where
  /-- What was emitted, last first. -/
  emitted : List Token := []
  /-- The waiting operators and the open parentheses, last first. -/
  pending : List Token := []
  /-- The token right before. -/
  previous : Option Token := none
  /-- The number of tokens read. -/
  position : Nat := 0

namespace Conversion

/-- Whether a waiting token leaves before `token` is stacked: an operator that binds at least as
tightly. -/
def yieldsTo (token waiting : Token) : Bool :=
  waiting.isOperator && token.precedence ≤ waiting.precedence

/-- Emit a number. -/
def emit (state : Conversion) (token : Token) : Conversion :=
  { state with emitted := token :: state.emitted }

/-- Open a group. -/
def openGroup (state : Conversion) (token : Token) : Conversion :=
  { state with pending := token :: state.pending }

/-- Stack an operator, after those that bind at least as tightly have left. -/
def stack (state : Conversion) (token : Token) : Conversion :=
  let (leaving, staying) := state.pending.span (yieldsTo token)
  { state with emitted := leaving.reverse ++ state.emitted, pending := token :: staying }

/-- Close the innermost group: all that waits inside it leaves. -/
def closeGroup (state : Conversion) : Except Defect Conversion :=
  if state.previous.any Token.isLeftParen then .error (.emptyGroup state.position)
  else
    match state.pending.span (!·.isLeftParen) with
    | (_, []) => .error (.unmatched state.position)
    | (leaving, _ :: staying) =>
      .ok { state with emitted := leaving.reverse ++ state.emitted, pending := staying }

/-- Remember a token as the one right before. -/
def advance (state : Conversion) (token : Token) : Conversion :=
  { state with previous := some token, position := state.position + 1 }

/-- What one token does to the state. -/
def step (state : Conversion) (token : Token) : Except Defect Conversion :=
  match token.kind with
  | .number => .ok ((state.emit token).advance token)
  | .leftParen => .ok ((state.openGroup token).advance token)
  | .rightParen =>
    match state.closeGroup with
    | .ok closed => .ok (closed.advance token)
    | .error defect => .error defect
  | .operator => .ok ((state.stack token).advance token)

/-- What a token list does to the state. -/
def run (state : Conversion) : List Token → Except Defect Conversion
  | [] => .ok state
  | token :: rest =>
    match state.step token with
    | .ok next => run next rest
    | .error defect => .error defect

/-- Let all that waits leave; a group that is still open is a defect. -/
def finish (state : Conversion) : Except Defect (List Token) :=
  let (leaving, staying) := state.pending.span (!·.isLeftParen)
  let emitted := leaving.reverse ++ state.emitted
  if staying.isEmpty then .ok emitted.reverse else .error (.unclosed emitted.length)

end Conversion

/-- The tokens in postfix order. -/
def toPostfix (tokens : List Token) : Except Defect (List Token) :=
  match Conversion.run {} tokens with
  | .ok state => state.finish
  | .error defect => .error defect

/-- The texts of tokens, separated by single spaces. -/
def joinTexts (tokens : List Token) : String := String.intercalate " " (tokens.map (·.text))

end Calculator
