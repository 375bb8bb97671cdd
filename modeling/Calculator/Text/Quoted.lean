import Calculator.Text.Printable

/-!
# Quoted texts

A text between quotation marks, as it stands in diagnostics: the mark is an apostrophe, unless the
text holds apostrophes and no double quotation mark. The mark and the backslash are escaped, and so
is every character that is not printable.
-/

namespace Calculator.Text

/-- The lowercase hexadecimal digit of a number below sixteen. -/
def hexDigit (n : Nat) : Char := if n < 10 then Char.ofNat (48 + n) else Char.ofNat (87 + n)

/-- The last `width` hexadecimal digits of a number. -/
def hexDigits (width n : Nat) : List Char :=
  (List.range width).reverse.map (fun place => hexDigit (n / Nat.pow 16 place % 16))

/-- The escape of a character that may not stand for itself: two, four or eight hexadecimal digits,
as the code point needs. -/
def escapeCode (c : Char) : List Char :=
  let n := c.val.toNat
  if n < 0x100 then '\\' :: 'x' :: hexDigits 2 n
  else if n < 0x10000 then '\\' :: 'u' :: hexDigits 4 n
  else '\\' :: 'U' :: hexDigits 8 n

/-- One character of a text quoted with `mark`. -/
def quoteChar (mark c : Char) : List Char :=
  if c = mark || c = '\\' then ['\\', c]
  else if c = '\n' then ['\\', 'n']
  else if c = '\r' then ['\\', 'r']
  else if c = '\t' then ['\\', 't']
  else if isPrintable c then [c]
  else escapeCode c

/-- The quotation mark of a text: double only when that spares an escape. -/
def quotationMark (chars : List Char) : Char :=
  if chars.contains '\'' && !chars.contains '"' then '"' else '\''

/-- A text between quotation marks. -/
def quoted (text : String) : String :=
  let mark := quotationMark text.toList
  String.ofList (mark :: (text.toList.flatMap (quoteChar mark) ++ [mark]))

end Calculator.Text
