import Calculator.Decimal.Text

/-!
# Floats with a given number of places

The text of a float after rounding to the nearest decimal of a grid, ties to even: with a fixed
number of places after the point, with an exponent, or in whichever of the two forms is shorter. All
arithmetic is exact.

## Main definitions

* `Decimal.Binary.rounded`: the rounding.
* `Decimal.fixedText`, `Decimal.exponentialText`, `Decimal.generalText`: the three forms.
-/

namespace Calculator.Decimal

/-- The value in units of `10 ^ e`, rounded to the nearest, a tie to the even one. -/
def Binary.rounded (x : Binary) (e : Int) : Nat :=
  let below := x.quotient e
  if x.nearerAbove below e then below + 1 else below

/-- The exponent of the first digit of a value; zero for zero. -/
def Binary.leading (x : Binary) : Int :=
  ((List.range 22).findSome? (fun (place : Nat) =>
    if x.quotient (x.ceiling - place) = 0 then none else some (x.ceiling - place))).getD 0

/-- The value rounded to `places` digits after its first one: all digits, as a number, and the
exponent of the first. -/
def Binary.significant (x : Binary) (places : Nat) : Nat × Int :=
  let digits := x.rounded (x.leading - places)
  if digits = Nat.pow 10 (places + 1) then (Nat.pow 10 places, x.leading + 1)
  else (digits, x.leading)

/-- Digits with the point before the last `places` of them. A point with nothing after it is left
out unless it has to stay. -/
def pointed (keepPoint : Bool) (places digits : Nat) : List Char :=
  let written := digitsOf digits
  let padded := List.replicate (places + 1 - written.length) '0' ++ written
  let (whole, fraction) := padded.splitAt (padded.length - places)
  if fraction.isEmpty && !keepPoint then whole else whole ++ '.' :: fraction

/-- Digits without the zeros after the point that say nothing, and without a point at the end. -/
def withoutZeros (written : List Char) : List Char :=
  if written.contains '.' then
    match written.reverse.dropWhile (· = '0') with
    | '.' :: rest => rest.reverse
    | rest => rest.reverse
  else written

/-- A value with `places` digits after the point. -/
def fixedText (keepPoint : Bool) (places : Nat) (x : Binary) : List Char :=
  pointed keepPoint places (x.rounded (-places))

/-- A value with one digit before the point, `places` after it, and an exponent. -/
def exponentialText (keepPoint : Bool) (places : Nat) (x : Binary) : List Char :=
  let (digits, exponent) := x.significant places
  pointed keepPoint places digits ++ 'e' :: exponentText exponent

/-- A value with `count` digits, at least one: positionally while the first digit stands from
`10 ^ -4` to below `10 ^ count`, and with an exponent otherwise. Zeros at the end of the fraction
are left out unless the point has to stay. -/
def generalText (keepPoint : Bool) (count : Nat) (x : Binary) : List Char :=
  let places := count - 1
  let (digits, exponent) := x.significant places
  let trim (written : List Char) : List Char := if keepPoint then written else withoutZeros written
  if -4 ≤ exponent ∧ exponent ≤ (places : Int) then
    trim (pointed keepPoint (places - exponent).toNat digits)
  else trim (pointed keepPoint places digits) ++ 'e' :: exponentText exponent

end Calculator.Decimal
