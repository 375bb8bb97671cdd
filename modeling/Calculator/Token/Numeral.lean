import Calculator.Decimal.Text
import Calculator.Text.Digit

/-!
# Number literals

A literal is an optional minus sign, then either digits with an optional point and optional further
digits, or a point and at least one digit. Only the digits `0` to `9` count.

## Main definitions

* `Numeral.isLiteral`: the grammar.
* `Numeral.value`: the float nearest to the number a literal spells.
-/

namespace Calculator.Numeral

/-- Whether a character is one of the digits `0` to `9`. -/
def isDigit (c : Char) : Bool := '0' ≤ c ∧ c ≤ '9'

/-- Whether characters form a literal without a sign. -/
def isUnsigned (chars : List Char) : Bool :=
  let whole := chars.takeWhile isDigit
  match chars.dropWhile isDigit with
  | [] => !whole.isEmpty
  | c :: fraction => c = '.' && fraction.all isDigit && !(whole.isEmpty && fraction.isEmpty)

/-- Whether characters form a literal. -/
def isLiteral : List Char → Bool
  | [] => false
  | c :: rest => if c = '-' then isUnsigned rest else isUnsigned (c :: rest)

/-- The value of a literal without a sign: the digits before and after the point, scaled down by as
many places as stand after it. -/
def unsignedValue (chars : List Char) : Float :=
  let whole := chars.takeWhile isDigit
  let fraction := (chars.dropWhile isDigit).drop 1
  Decimal.nearest (Text.numberOfDigits ((whole ++ fraction).map Text.asciiDigit))
    (-fraction.length)

/-- The value of a literal. -/
def value : List Char → Float
  | [] => 0.0
  | c :: rest => if c = '-' then -(unsignedValue rest) else unsignedValue (c :: rest)

end Calculator.Numeral
