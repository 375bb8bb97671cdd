/-!
# Letter case

Uppercase and lowercase as far as the result is ASCII: besides the letters of ASCII, a few other
letters and ligatures have ASCII letters as their uppercase. Every other character is kept.
-/

namespace Calculator.Text

/-- The letters outside ASCII whose uppercase is ASCII. -/
def asciiUppercases : List (Nat × List Char) :=
  [(0xDF, ['S', 'S']), (0x131, ['I']), (0x17F, ['S']), (0xFB00, ['F', 'F']),
   (0xFB01, ['F', 'I']), (0xFB02, ['F', 'L']), (0xFB03, ['F', 'F', 'I']),
   (0xFB04, ['F', 'F', 'L']), (0xFB05, ['S', 'T']), (0xFB06, ['S', 'T'])]

/-- The uppercase of a character. -/
def upperChar (c : Char) : List Char :=
  match asciiUppercases.lookup c.val.toNat with
  | some letters => letters
  | none => [c.toUpper]

/-- The uppercase of a text. -/
def upper (text : String) : String := String.ofList (text.toList.flatMap upperChar)

/-- The lowercase of a text. -/
def lower (text : String) : String := String.ofList (text.toList.map Char.toLower)

end Calculator.Text
