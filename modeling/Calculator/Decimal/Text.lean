import Calculator.Decimal.Shortest

/-!
# Written floats

The text of a float: its shortest decimal, positionally while the leading digit stands from
`10 ^ -4` to `10 ^ 15`, and with a signed exponent of at least two digits otherwise. An integral
value keeps a zero after the point.
-/

namespace Calculator.Decimal

/-- The texts of the values that are no numbers. -/
structure SpecialTexts where
  /-- The text of the value that is no number at all. -/
  nan : String
  /-- The text of positive infinity. -/
  infinity : String
  /-- The text of negative infinity. -/
  negativeInfinity : String

/-- The special values as programs spell them in words. -/
def SpecialTexts.words : SpecialTexts := ⟨"nan", "inf", "-inf"⟩

/-- The special values as lenient JSON spells them. -/
def SpecialTexts.json : SpecialTexts := ⟨"NaN", "Infinity", "-Infinity"⟩

/-- The decimal digits of a natural number. -/
def digitsOf (n : Nat) : List Char := Nat.toDigits 10 n

/-- The exponent part: a sign and at least two digits. -/
def exponentText (e : Int) : List Char :=
  let digits := digitsOf e.natAbs
  (if e < 0 then '-' else '+') :: (if digits.length < 2 then '0' :: digits else digits)

/-- A decimal in positional notation or with an exponent. -/
def layOut (d : Scaled) : List Char :=
  let digits := digitsOf d.digits
  let leading : Int := d.exponent + digits.length - 1
  if -4 ≤ leading ∧ leading < 16 then
    if 0 ≤ d.exponent then
      digits ++ List.replicate d.exponent.toNat '0' ++ ['.', '0']
    else if 0 ≤ leading then
      digits.take (leading.toNat + 1) ++ '.' :: digits.drop (leading.toNat + 1)
    else
      '0' :: '.' :: (List.replicate (-leading - 1).toNat '0' ++ digits)
  else
    match digits with
    | [] => []
    | first :: [] => first :: 'e' :: exponentText leading
    | first :: rest => first :: '.' :: (rest ++ 'e' :: exponentText leading)

/-- Whether a float is neither infinite nor no number. -/
def isFinite (x : Float) : Bool := ((x.toBits >>> 52) &&& 0x7FF) != 0x7FF

/-- Whether the sign bit of a float is set. -/
def isNegative (x : Float) : Bool := (x.toBits >>> 63) == 1

/-- The text of a float. -/
def text (special : SpecialTexts) (x : Float) : String :=
  if isFinite x then
    let value := Binary.ofBits x.toBits
    let body := if value.m = 0 then ['0', '.', '0'] else layOut (shortest value)
    String.ofList (if isNegative x then '-' :: body else body)
  else if x.toBits == 0x7FF0000000000000 then special.infinity
  else if x.toBits == 0xFFF0000000000000 then special.negativeInfinity
  else special.nan

/-- The float nearest to `digits * 10 ^ exponent`, ties to even. -/
def nearest (digits : Nat) (exponent : Int) : Float :=
  Float.ofScientific digits (exponent < 0) exponent.natAbs

end Calculator.Decimal
