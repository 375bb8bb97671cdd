import Calculator.Token.Basic
import Calculator.Token.Numeral
import Calculator.Text.Blank

/-!
# Fragments

An expression is first cut into raw fragments: each operator sign and parenthesis alone, and each
maximal run of other characters. Then a minus sign that cannot be a subtraction, because nothing, an
operator or an opening parenthesis stands before it, is joined with a number literal that follows
it. A fragment is finally read as a token, if it is one.

## Main definitions

* `Fragment.cut`: the raw fragments.
* `Fragment.joinSigns`: the signed literals put together.
* `Fragment.split`: both, on a text.
* `Token.ofText?`: the token that a fragment is.
-/

namespace Calculator

namespace Fragment

/-- The characters that always stand alone: the signs of the operators and the parentheses. -/
def isSymbol (c : Char) : Bool :=
  c = '+' || c = '-' || c = '*' || c = '/' || c = '^' || c = '(' || c = ')'

/-- Collect raw fragments: `done` holds the finished ones last first, `word` the characters of the
open one last first. -/
def collect (done : List (List Char)) (word : List Char) : List Char → List (List Char)
  | [] => (Text.closeWord word done).reverse
  | c :: rest =>
    if Text.isBlank c then collect (Text.closeWord word done) [] rest
    else if isSymbol c then collect ([c] :: Text.closeWord word done) [] rest
    else collect done (c :: word) rest

/-- The raw fragments of a text. -/
def cut (chars : List Char) : List (List Char) := collect [] [] chars

/-- Whether a minus sign after this fragment, or at the start, is no subtraction. -/
def opensOperand : Option (List Char) → Bool
  | none => true
  | some [c] => isSymbol c && c ≠ ')'
  | some _ => false

/-- Join signs with the literals they belong to; `done` holds the fragments before, last first. -/
def joinInto (done : List (List Char)) : List (List Char) → List (List Char)
  | [] => done.reverse
  | [fragment] => (fragment :: done).reverse
  | fragment :: next :: rest =>
    if fragment = ['-'] && opensOperand done.head? && Numeral.isLiteral next then
      joinInto (('-' :: next) :: done) rest
    else joinInto (fragment :: done) (next :: rest)

/-- Raw fragments with the signed literals put together. -/
def joinSigns (fragments : List (List Char)) : List (List Char) := joinInto [] fragments

/-- The fragments of an expression. -/
def split (text : String) : List String := (joinSigns (cut text.toList)).map String.ofList

end Fragment

namespace Token

/-- Read a fragment as a token. -/
def ofText? (text : String) : Option Token :=
  if Numeral.isLiteral text.toList then
    some { kind := .number, text, value := some (Numeral.value text.toList) }
  else if (Operator.ofSymbol? text).isSome then some { kind := .operator, text }
  else if text = "(" then some { kind := .leftParen, text }
  else if text = ")" then some { kind := .rightParen, text }
  else none

end Token

end Calculator
