import Calculator.Decimal.Places
import Calculator.Problem

/-!
# Line templates

A template is a text with places for named values: `%(name)s` stands for the text of a value,
`%(name)d` for an integer, `%(name)f` for a float, and `%%` for the percent sign. Between the name
and the letter may stand marks, the least width, and after a point the greatest length of a text or
the number of digits.

## Main definitions

* `Place`, `Piece`: the parts of a template.
* `Template.read`: the pieces of a template.
* `Place.write`: a value at a place.
* `Supply`: where the values come from.
* `Template.substitute`: a template with the values of a supply put in.
* `Template.fill`: a template of lines with its named values put in.
-/

namespace Calculator

/-- The marks of a place. -/
structure Place.Marks where
  /-- Align to the left. -/
  left : Bool := false
  /-- Fill up numbers with zeros. -/
  zeros : Bool := false
  /-- Write a plus sign before numbers that are not negative. -/
  plus : Bool := false
  /-- Write a blank before numbers that are not negative. -/
  blank : Bool := false
  /-- Write the base before the digits, and keep the point of a float. -/
  full : Bool := false

/-- A place of a template. -/
structure Place where
  /-- The name of the value, if one is given. -/
  name : Option String := none
  /-- The marks. -/
  marks : Place.Marks := {}
  /-- The least width. -/
  width : Nat := 0
  /-- The greatest length of a text, or the number of digits. -/
  length : Option Nat := none
  /-- The letter that tells how the value is written. -/
  letter : Char := 's'
  /-- Where the letter stands in the template. -/
  position : Nat := 0

/-- A piece of a template. -/
inductive Piece where
  /-- A character that stands for itself. -/
  | char (c : Char)
  /-- A place for a value. -/
  | place (place : Place)

/-- What a reader of a template stands in. -/
inductive TemplatePart where
  /-- Outside all places. -/
  | outside
  /-- Right after a percent sign. -/
  | start
  /-- Inside a name, which is collected last first, at a depth of parentheses. -/
  | name (read : List Char) (depth : Nat)
  /-- Among the marks of a place. -/
  | marks (place : Place)
  /-- Inside the width of a place. -/
  | width (place : Place)
  /-- Inside the length of a place. -/
  | length (place : Place)
  /-- After a mark for the size of a number, which says nothing here. -/
  | sized (place : Place)

namespace Place

/-- Add a mark. -/
def mark? (place : Place) (c : Char) : Option Place :=
  let marks := place.marks
  if c = '-' then some { place with marks := { marks with left := true } }
  else if c = '0' then some { place with marks := { marks with zeros := true } }
  else if c = '+' then some { place with marks := { marks with plus := true } }
  else if c = ' ' then some { place with marks := { marks with blank := true } }
  else if c = '#' then some { place with marks := { marks with full := true } }
  else none

/-- Add a digit to the width. -/
def widen (place : Place) (digit : Nat) : Place := { place with width := 10 * place.width + digit }

/-- Add a digit to the length. -/
def lengthen (place : Place) (digit : Nat) : Place :=
  { place with length := some (10 * place.length.getD 0 + digit) }

end Place

namespace Template

/-- One of the digits `0` to `9`. -/
def digit? (c : Char) : Option Nat :=
  if '0' ≤ c ∧ c ≤ '9' then some (c.val.toNat - 48) else none

/-- What is wrong with a place when no value is left for it. -/
def exhausted : Fault := .internal "TypeError" "not enough arguments for format string"

/-- What a character does outside all places. -/
def stepOutside (c : Char) (read : List Piece) : TemplatePart × List Piece :=
  if c = '%' then (.start, read) else (.outside, .char c :: read)

/-- What a character does inside a name. -/
def stepName (name : List Char) (depth : Nat) (c : Char) : TemplatePart :=
  if c = ')' ∧ depth = 0 then .marks { name := some (String.ofList name.reverse) }
  else .name (c :: name) (if c = '(' then depth + 1 else if c = ')' then depth - 1 else depth)

/-- The letter of a place ends it. -/
def stepLetter (place : Place) (position : Nat) (c : Char) (read : List Piece) :
    TemplatePart × List Piece :=
  (.outside, .place { place with letter := c, position } :: read)

/-- What a character does after the length of a place. -/
def stepAfterLength (place : Place) (position : Nat) (c : Char) (read : List Piece) :
    TemplatePart × List Piece :=
  if c = 'h' || c = 'l' || c = 'L' then (.sized place, read)
  else stepLetter place position c read

/-- What a character does after the width of a place. -/
def stepAfterWidth (place : Place) (position : Nat) (c : Char) (read : List Piece) :
    TemplatePart × List Piece :=
  if c = '.' then (.length { place with length := some 0 }, read)
  else stepAfterLength place position c read

/-- What a character does among the marks of a place. -/
def stepMarks (place : Place) (position : Nat) (c : Char) (read : List Piece) :
    TemplatePart × List Piece :=
  match place.mark? c, digit? c with
  | some marked, _ => (.marks marked, read)
  | none, some d => (.width (place.widen d), read)
  | none, none => stepAfterWidth place position c read

/-- What a character does. -/
def step (part : TemplatePart) (position : Nat) (c : Char) (read : List Piece) :
    TemplatePart × List Piece :=
  match part with
  | .outside => stepOutside c read
  | .start =>
    if c = '(' then (.name [] 0, read)
    else if c = '%' then (.outside, .char '%' :: read)
    else stepMarks {} position c read
  | .name name depth => (stepName name depth c, read)
  | .marks place => stepMarks place position c read
  | .width place =>
    match digit? c with
    | some d => (.width (place.widen d), read)
    | none => stepAfterWidth place position c read
  | .length place =>
    match digit? c with
    | some d => (.length (place.lengthen d), read)
    | none => stepAfterLength place position c read
  | .sized place => stepLetter place position c read

/-- Read the pieces of a template from a position on; `read` holds those before, last first. Beside
them is told where the template ends. -/
def readFrom (part : TemplatePart) (read : List Piece) (position : Nat) :
    List Char → List Piece × TemplatePart
  | [] => (read.reverse, part)
  | c :: rest =>
    let (part, read) := step part position c read
    readFrom part read (position + 1) rest

/-- The pieces of a template, and where it ends. -/
def read (template : String) : List Piece × TemplatePart :=
  readFrom .outside [] 0 template.toList

end Template

namespace Place

/-- A text brought to its least width. -/
def pad (left : Bool) (fill : Char) (width : Nat) (text : List Char) : List Char :=
  let missing := List.replicate (width - text.length) fill
  if left then text ++ missing else missing ++ text

/-- The sign of a number. -/
def sign (place : Place) (negative : Bool) : List Char :=
  if negative then ['-']
  else if place.marks.plus then ['+']
  else if place.marks.blank then [' ']
  else []

/-- A number, given what stands before its digits and its digits, brought to its least width. -/
def writeNumber (place : Place) (before digits : List Char) : List Char :=
  if place.marks.zeros && !place.marks.left then
    before ++ pad false '0' (place.width - before.length) digits
  else pad place.marks.left ' ' place.width (before ++ digits)

/-- A text cut to its greatest length and brought to its least width. -/
def writeText (place : Place) (text : List Char) : List Char :=
  pad place.marks.left ' ' place.width (text.take (place.length.getD text.length))

/-- An integer in a base, with what tells the base. -/
def writeInteger (place : Place) (base : Nat) (mark : List Char) (n : Int) : List Char :=
  let digits := pad false '0' (place.length.getD 1) (Nat.toDigits base n.natAbs)
  place.writeNumber (place.sign (n < 0) ++ (if place.marks.full then mark else [])) digits

/-- A float in the form that the letter tells. -/
def writeFloat (place : Place) (x : Float) : List Char :=
  let letter := place.letter.toLower
  let places := place.length.getD 6
  let full := place.marks.full
  let value := Decimal.Binary.ofBits x.toBits
  let digits :=
    if !Decimal.isFinite x then (if x.isNaN then ['n', 'a', 'n'] else ['i', 'n', 'f'])
    else if letter = 'f' then Decimal.fixedText full places value
    else if letter = 'e' then Decimal.exponentialText full places value
    else Decimal.generalText full (max places 1) value
  place.writeNumber (place.sign (Decimal.isNegative x && !x.isNaN))
    (if letter = place.letter then digits else digits.map Char.toUpper)

/-- The integer that a finite float is cut down to. -/
def truncate (x : Float) : Int :=
  let n : Int := (Decimal.Binary.ofBits x.toBits).quotient 0
  if Decimal.isNegative x then -n else n

/-- The integer that a number is cut down to. -/
def whole (place : Place) (value : Json) : Except Fault Int :=
  match value with
  | .int n => .ok n
  | .bool b => .ok (if b then 1 else 0)
  | .float x =>
    if Decimal.isFinite x then .ok (truncate x)
    else if x.isNaN then .error (.internal "ValueError" "cannot convert float NaN to integer")
    else .error (.internal "OverflowError" "cannot convert float infinity to integer")
  | _ =>
    .error (.internal "TypeError" (String.ofList ['%', place.letter] ++
      " format: a real number is required, not " ++ value.typeName))

/-- The integer that an integral value is. -/
def integral (place : Place) (value : Json) : Except Fault Int :=
  match value with
  | .int n => .ok n
  | .bool b => .ok (if b then 1 else 0)
  | _ =>
    .error (.internal "TypeError" (String.ofList ['%', place.letter] ++
      " format: an integer is required, not " ++ value.typeName))

/-- The float nearest to a natural number; `none` above the greatest one. -/
def floatOfNat? (n : Nat) : Option Float :=
  let x := Decimal.nearest n 0
  if Decimal.isFinite x then some x else none

/-- The float that a number is. -/
def real (value : Json) : Except Fault Float :=
  match value with
  | .int n =>
    match floatOfNat? n.natAbs with
    | some x => .ok (if n < 0 then -x else x)
    | none => .error (.internal "OverflowError" "int too large to convert to float")
  | .bool b => .ok (if b then 1.0 else 0.0)
  | .float x => .ok x
  | _ => .error (.internal "TypeError" ("must be real number, not " ++ value.typeName))

/-- The one character that a value is: a text of one character, or a code point. -/
def character (value : Json) : Except Fault Char :=
  match value with
  | .str text =>
    match text.toList with
    | [c] => .ok c
    | _ => .error (.internal "TypeError" "%c requires int or char")
  | .int n =>
    if 0 ≤ n ∧ n < 0x110000 then .ok (Char.ofNat n.toNat)
    else .error (.internal "OverflowError" "%c arg not in range(0x110000)")
  | .bool b => .ok (if b then '\x01' else '\x00')
  | _ => .error (.internal "TypeError" "%c requires int or char")

/-- A character as it is written in ASCII. -/
def escapeBeyondAscii (c : Char) : List Char :=
  if 0x7E < c.val.toNat then Text.escapeCode c else [c]

/-- The failure of a letter that stands for no form. -/
def unknownLetter (place : Place) : Fault :=
  let n := place.letter.val.toNat
  .internal "ValueError" ("unsupported format character '" ++
    String.ofList [if 31 ≤ n ∧ n < 128 then place.letter else '?'] ++ "' (0x" ++
    String.ofList (Nat.toDigits 16 n) ++ ") at index " ++ toString place.position)

/-- The failure of an asterisk, which takes the value for a width, so that none is left to write. -/
def widthTaken (value : Json) : Fault :=
  match value with
  | .int _ => Template.exhausted
  | .bool _ => Template.exhausted
  | _ => .internal "TypeError" "* wants int"

/-- An integer by its decimal digits, if they are not too many. -/
def writeDecimal (place : Place) (n : Int) : Except Fault (List Char) :=
  (Json.int n).toText.map fun _ => place.writeInteger 10 [] n

/-- A value at a place. -/
def write (place : Place) (value : Json) : Except Fault (List Char) :=
  match place.letter with
  | 's' => value.toText.map (fun text => place.writeText text.toList)
  | 'r' => value.toQuotedText.map (fun text => place.writeText text.toList)
  | 'a' =>
    value.toQuotedText.map (fun text => place.writeText (text.toList.flatMap escapeBeyondAscii))
  | 'c' => (character value).map (fun c => pad place.marks.left ' ' place.width [c])
  | 'd' => (place.whole value).bind place.writeDecimal
  | 'i' => (place.whole value).bind place.writeDecimal
  | 'u' => (place.whole value).bind place.writeDecimal
  | 'o' => (place.integral value).map (place.writeInteger 8 ['0', 'o'])
  | 'x' => (place.integral value).map (place.writeInteger 16 ['0', 'x'])
  | 'X' =>
    (place.integral value).map (fun n => (place.writeInteger 16 ['0', 'x'] n).map Char.toUpper)
  | '*' => .error (widthTaken value)
  | letter =>
    if letter.toLower = 'e' || letter.toLower = 'f' || letter.toLower = 'g' then
      (real value).map place.writeFloat
    else .error place.unknownLetter

end Place

namespace Template

/-- Where the values for the places of a template come from. -/
structure Supply where
  /-- The value of a name. -/
  named : String → Except Fault Json
  /-- The value for a place without a name. It is there once. -/
  unnamed : Option Json := none
  /-- Whether that value has to be used. -/
  exact : Bool := false

namespace Supply

/-- The supply of a line: the attributes of its record. -/
def ofRecord (values : Fields) : Supply where
  named := fun name =>
    match Table.get? values name with
    | some value => .ok value
    | none =>
      .error (.internal "ValueError" ("Formatting field not found in record: " ++ Text.quoted name))
  unnamed := some (.obj values)

/-- The supply that one value is: the members of an object have names, and other values none. -/
def ofValue (value : Json) : Supply where
  named := fun name =>
    match value with
    | .obj members =>
      match Table.get? members name with
      | some member => .ok member
      | none => .error (.internal "KeyError" (Text.quoted name))
    | .arr _ => .error (.internal "TypeError" "list indices must be integers or slices, not str")
    | _ => .error (.internal "TypeError" "format requires a mapping")
  unnamed := some value
  exact :=
    match value with
    | .obj _ => false
    | .arr _ => false
    | _ => true

/-- The value for a place. -/
def valueFor (supply : Supply) (place : Place) : Except Fault Json :=
  match place.name, supply.unnamed with
  | some name, _ => supply.named name
  | none, some value => .ok value
  | none, none => .error exhausted

/-- What is left of a supply after a place took its value. -/
def rest (supply : Supply) : Supply := { supply with unnamed := none }

/-- What is wrong with a place at which a template ends. -/
def unfinished (supply : Supply) (place : Place) : Fault :=
  match place.name.map supply.named with
  | some (.error fault) => fault
  | _ => .internal "ValueError" "incomplete format"

/-- What is wrong with a template that ends here. -/
def trouble (supply : Supply) : TemplatePart → Option Fault
  | .outside =>
    if supply.exact && supply.unnamed.isSome then
      some (.internal "TypeError" "not all arguments converted during string formatting")
    else none
  | .name _ _ => some (.internal "ValueError" "incomplete format key")
  | .start => some (.internal "ValueError" "incomplete format")
  | .marks place => some (supply.unfinished place)
  | .width place => some (supply.unfinished place)
  | .length place => some (supply.unfinished place)
  | .sized place => some (supply.unfinished place)

end Supply

/-- Fill the pieces of a template that ends at `ending`; `written` holds what was written before,
last first. -/
def fillPieces (ending : TemplatePart) (supply : Supply) (written : List Char) :
    List Piece → Except Fault (List Char)
  | [] =>
    match supply.trouble ending with
    | some fault => .error fault
    | none => .ok written.reverse
  | .char c :: rest => fillPieces ending supply (c :: written) rest
  | .place place :: rest =>
    match (supply.valueFor place).bind place.write with
    | .ok text => fillPieces ending supply.rest (text.reverse ++ written) rest
    | .error fault => .error fault

/-- A template with the values of a supply put in. -/
def substitute (template : String) (supply : Supply) : Except Fault String :=
  (fillPieces (read template).2 supply [] (read template).1).map String.ofList

/-- Whether a character may stand in the name of a value that a template is about: letters, digits
and the underscore. Every character outside ASCII counts as a letter. -/
def isNameChar (c : Char) : Bool := c.isAlphanum || c = '_' || 0x7F < c.val.toNat

/-- Drop an asterisk or the digits at the front. -/
def dropCount (chars : List Char) : List Char :=
  match chars with
  | '*' :: rest => rest
  | _ => chars.dropWhile Char.isDigit

/-- Whether a place with a name starts here. -/
def startsNamed (chars : List Char) : Bool :=
  match chars with
  | '%' :: '(' :: rest =>
    match rest.dropWhile isNameChar with
    | ')' :: afterName =>
      let afterWidth := dropCount (afterName.dropWhile (fun c => (({} : Place).mark? c).isSome))
      let atLetter := match afterWidth with
        | '.' :: length => if dropCount length = length then [] else dropCount length
        | _ => afterWidth
      rest.head? ≠ some ')' &&
        atLetter.head?.any (fun c => "diouxefgcrsa%".toList.contains c.toLower)
    | _ => false
  | _ => false

/-- Whether a template is about a named value anywhere. -/
def hasNamed : List Char → Bool
  | [] => false
  | c :: rest => startsNamed (c :: rest) || hasNamed rest

/-- A template of lines with its named values put in. One that is about no named value is
refused. -/
def fill (template : String) (values : Fields) : Except Fault String :=
  if hasNamed template.toList then substitute template (.ofRecord values)
  else .error (.internal "ValueError" ("Invalid format '" ++ template ++ "' for '%' style"))

end Template

end Calculator
