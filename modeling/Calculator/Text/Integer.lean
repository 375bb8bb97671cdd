import Calculator.Text.Blank
import Calculator.Text.Digit

/-!
# Written integers

The integers that settings and command lines accept: surrounding blanks, an optional sign, decimal
digits of any script, single underscores between digits, and at most `maxDigits` digits.
-/

namespace Calculator.Text

/-- The longest run of digits that is read as an integer. -/
def maxDigits : Nat := 4300

/-- The digits of `5_0`-like text: digits with at most one underscore between two of them. The
flag tells whether a digit stands right before. -/
def groupedDigits? (afterDigit : Bool) : List Char → Option (List Nat)
  | [] => if afterDigit then some [] else none
  | c :: rest =>
    if c = '_' then
      if afterDigit then groupedDigits? false rest else none
    else
      match digitValue? c with
      | some d => (groupedDigits? true rest).map (d :: ·)
      | none => none

/-- Read an unsigned integer. -/
def natural? (chars : List Char) : Option Nat :=
  match groupedDigits? false chars with
  | some digits => if digits.length ≤ maxDigits then some (numberOfDigits digits) else none
  | none => none

/-- Read a written integer. -/
def integer? (text : String) : Option Int :=
  match trim isMargin text.toList with
  | '+' :: rest => (natural? rest).map Int.ofNat
  | '-' :: rest => (natural? rest).map (fun n => -(Int.ofNat n))
  | rest => (natural? rest).map Int.ofNat

end Calculator.Text
